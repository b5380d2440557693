import LanceC.Logic.PartialCmp
import LanceC.Scalar.SelectionInvariant
import Mathlib.Data.List.Pairwise

/-! What the page estimate says about the pages that a BTree lookup summarises. -/

namespace LanceC.Scalar

open Logic Machine

/-- The values of one BTree page, NULLs included. -/
abbrev Page (Value : Type) := List (ScalarValue Value)

variable {Value : Type}

namespace Page

def minimum (page : Page Value) : ScalarValue Value := page.head?.join

def maximum (page : Page Value) : ScalarValue Value := page.getLast?.join

def nullCount (page : Page Value) : Nat := page.countP Option.isNone

end Page

theorem Page.nullCount_ne_zero {page : Page Value} (null : none ∈ page) : page.nullCount ≠ 0 := by
  have positive : 0 < page.nullCount := List.countP_pos_iff.mpr ⟨none, null, rfl⟩
  omega

variable [ScalarOrder Value]

/-- NULL is below every value. -/
def NullsFirst : ScalarValue Value → ScalarValue Value → Prop
  | none, _ => True
  | some _, none => False
  | some left, some right => AtMost ScalarOrder.partialCmp left right

def Page.Sorted (page : Page Value) : Prop := page.Pairwise NullsFirst

/-- Row `i` of the lookup holds the first value, the last value and the number of NULLs of page `i`. -/
structure Summarises (batch : LookupBatch Value) (pages : List (Page Value)) : Prop where
  rows : batch.numRows = pages.length
  sorted : ∀ page ∈ pages, page.Sorted
  min : ∀ row page, pages[row]? = some page → batch.min row = some page.minimum
  max : ∀ row page, pages[row]? = some page → batch.max row = some page.maximum
  nulls : ∀ counts, batch.nulls = some counts →
    ∀ row page, pages[row]? = some page → counts row = page.nullCount

/-- A NULL literal selects the NULL rows, as it does in an index search. -/
def sameScalar : ScalarValue Value → ScalarValue Value → Bool
  | none, none => true
  | some row, some value => ScalarOrder.partialCmp row value == some .eq
  | _, _ => false

def afterStart (row : Value) : Bound (ScalarValue Value) → Bool
  | .included (some value) => (ScalarOrder.partialCmp row value).any (· != .lt)
  | .excluded (some value) => ScalarOrder.partialCmp row value == some .gt
  | .unbounded => true
  | _ => false

def beforeStop (row : Value) : Bound (ScalarValue Value) → Bool
  | .included (some value) => (ScalarOrder.partialCmp row value).any (· != .gt)
  | .excluded (some value) => ScalarOrder.partialCmp row value == some .lt
  | .unbounded => true
  | _ => false

/-- The rows that a query selects. No page is ever estimated for the other queries. -/
def SargableQuery.selects (row : ScalarValue Value) : SargableQuery Value → Bool
  | equals value => sameScalar row value
  | isIn values => values.any (sameScalar row)
  | range start stop => row.any fun value => afterStart value start && beforeStop value stop
  | isNull => row.isNone
  | other _ => false

def ScalarIndexExpr.selects (row : ScalarValue Value) : ScalarIndexExpr Value → Bool
  | query search => search.query.selects row
  | and lhs rhs => lhs.selects row && rhs.selects row
  | or lhs rhs => lhs.selects row || rhs.selects row
  | not _ => false

namespace Page

/-- The page has a row that satisfies the expression. -/
def holds (expr : ScalarIndexExpr Value) (page : Page Value) : Bool := page.any (expr.selects ·)

/-- A page with NULLs whose satisfying rows are all values. -/
def hidden (expr : ScalarIndexExpr Value) (page : Page Value) : Bool :=
  page.any Option.isNone && !expr.selects none && page.holds expr

/-- A page whose bounds and NULLs match the expression though none of its rows does. -/
def idle (expr : ScalarIndexExpr Value) (page : Page Value) : Bool :=
  !page.holds expr && matchesPage expr page.minimum page.maximum page.nullCount == some true

variable {page : Page Value}

/-- In a sorted page with a NULL the first value is NULL. -/
theorem minimum_of_null (sorted : page.Sorted) (null : none ∈ page) : page.minimum = none := by
  cases page with
  | nil => rfl
  | cons first rest =>
    cases first with
    | none => rfl
    | some value =>
      have later : none ∈ rest := by simpa using null
      exact absurd ((List.pairwise_cons.mp sorted).1 none later) (by simp [NullsFirst])

/-- In a sorted page without NULLs every row lies between the bounds. -/
theorem bounds_of_value (lawful : LawfulPartialCmp (@ScalarOrder.partialCmp Value _)) (sorted : page.Sorted)
    (noNull : none ∉ page) {value : Value} (member : some value ∈ page) :
    ∃ least greatest, page.minimum = some least ∧ page.maximum = some greatest ∧
      AtMost ScalarOrder.partialCmp least value ∧ AtMost ScalarOrder.partialCmp value greatest := by
  have inhabited : page ≠ [] := List.ne_nil_of_mem member
  obtain ⟨least, atHead⟩ : ∃ least, page.head inhabited = some least :=
    Option.ne_none_iff_exists'.mp fun null => noNull (null ▸ List.head_mem inhabited)
  obtain ⟨greatest, atLast⟩ : ∃ greatest, page.getLast inhabited = some greatest :=
    Option.ne_none_iff_exists'.mp fun null => noNull (null ▸ List.getLast_mem inhabited)
  have fromHead := sorted.rel_head_of_rel_head_head member (by rw [atHead]; exact .refl lawful least)
  have toLast := sorted.rel_getLast_of_rel_getLast_getLast member (by rw [atLast]; exact .refl lawful greatest)
  rw [atHead] at fromHead
  rw [atLast] at toLast
  refine ⟨least, greatest, ?_, ?_, fromHead, toLast⟩
  · rw [minimum, List.head?_eq_some_head inhabited, atHead]
    rfl
  · rw [maximum, List.getLast?_eq_some_getLast inhabited, atLast]
    rfl

end Page

section Inversion

variable {min max : ScalarValue Value} {nulls : Nat} {hit : Bool} {lhs rhs : ScalarIndexExpr Value}

theorem matchesPage_and (decided : matchesPage (.and lhs rhs) min max nulls = some hit) :
    ∃ left, matchesPage lhs min max nulls = some left ∧
      ((left = false ∧ hit = false) ∨ (left = true ∧ matchesPage rhs min max nulls = some hit)) := by
  obtain ⟨left, first, rest⟩ := Option.bind_eq_some_iff.mp decided
  refine ⟨left, first, ?_⟩
  cases left with
  | false => exact .inl ⟨rfl, (Option.some.inj rest).symm⟩
  | true => exact .inr ⟨rfl, rest⟩

theorem matchesPage_or (decided : matchesPage (.or lhs rhs) min max nulls = some hit) :
    ∃ left, matchesPage lhs min max nulls = some left ∧
      ((left = true ∧ hit = true) ∨ (left = false ∧ matchesPage rhs min max nulls = some hit)) := by
  obtain ⟨left, first, rest⟩ := Option.bind_eq_some_iff.mp decided
  refine ⟨left, first, ?_⟩
  cases left with
  | false => exact .inr ⟨rfl, rest⟩
  | true => exact .inl ⟨rfl, (Option.some.inj rest).symm⟩

theorem containsAny_cons {value : ScalarValue Value} {rest : List (ScalarValue Value)}
    (decided : containsAny min max nulls (value :: rest) = some hit) :
    ∃ first, containsValue min max nulls value = some first ∧
      ((first = true ∧ hit = true) ∨ (first = false ∧ containsAny min max nulls rest = some hit)) := by
  obtain ⟨first, contained, later⟩ := Option.bind_eq_some_iff.mp decided
  refine ⟨first, contained, ?_⟩
  cases first with
  | false => exact .inr ⟨rfl, later⟩
  | true => exact .inl ⟨rfl, (Option.some.inj later).symm⟩

end Inversion

section NullPage

variable {max : ScalarValue Value} {nulls : Nat} {hit : Bool}

/-- A NULL minimum reads as a page of NULLs only. -/
theorem containsValue_null (counted : nulls ≠ 0) (value : ScalarValue Value) :
    containsValue none max nulls value = some (sameScalar none value) := by
  cases value with
  | none => simp [containsValue, sameScalar, counted]
  | some value => rfl

theorem containsAny_null (counted : nulls ≠ 0) (values : List (ScalarValue Value)) :
    containsAny none max nulls values = some (values.any (sameScalar none)) := by
  induction values with
  | nil => rfl
  | cons value rest ih =>
    rw [containsAny, containsValue_null counted, ih, List.any_cons]
    cases sameScalar none value <;> rfl

theorem overlaps_null (counted : nulls ≠ 0) (query : SargableQuery Value)
    (decided : overlaps none max query nulls = some hit) : hit = query.selects none := by
  cases query with
  | equals value =>
    rw [overlaps, containsValue_null counted] at decided
    exact (Option.some.inj decided).symm
  | isIn values =>
    rw [overlaps, containsAny_null counted] at decided
    split at decided
    · exact (Option.some.inj decided).symm
    · cases decided
  | range start stop => exact (Option.some.inj decided).symm
  | isNull =>
    have counts : (nulls != 0) = true := by simpa using counted
    rw [overlaps, counts] at decided
    exact (Option.some.inj decided).symm
  | other tag => cases decided

/-- So a page with a NULL counts exactly when the NULL itself satisfies the expression. -/
theorem matchesPage_null (counted : nulls ≠ 0) (expr : ScalarIndexExpr Value)
    (decided : matchesPage expr none max nulls = some hit) : hit = expr.selects none := by
  induction expr generalizing hit with
  | query search => exact overlaps_null counted search.query decided
  | and lhs rhs left right =>
    rw [ScalarIndexExpr.selects]
    obtain ⟨one, first, ⟨rfl, rfl⟩ | ⟨rfl, second⟩⟩ := matchesPage_and decided
    · rw [← left first, Bool.false_and]
    · rw [← left first, ← right second, Bool.true_and]
  | or lhs rhs left right =>
    rw [ScalarIndexExpr.selects]
    obtain ⟨one, first, ⟨rfl, rfl⟩ | ⟨rfl, second⟩⟩ := matchesPage_or decided
    · rw [← left first, Bool.true_or]
    · rw [← left first, ← right second, Bool.false_or]
  | not inner => cases decided

end NullPage

section ValuePage

variable {least value greatest : Value} {nulls : Nat} {hit : Bool}
variable (lawful : LawfulPartialCmp (@ScalarOrder.partialCmp Value _))
variable (above : AtMost ScalarOrder.partialCmp least value) (below : AtMost ScalarOrder.partialCmp value greatest)

include lawful

/-- The bound test, made at the greatest value, is passed wherever a smaller value passes it. -/
theorem aboveLower_of_after (below : AtMost ScalarOrder.partialCmp value greatest)
    {start : Bound (ScalarValue Value)} (after : afterStart value start = true)
    (decided : aboveLower greatest start = some hit) : hit = true := by
  match start with
  | .included none | .excluded none => cases decided
  | .unbounded => exact (Option.some.inj decided).symm
  | .included (some bound) =>
    have atMost : AtMost ScalarOrder.partialCmp bound value :=
      (AtMost.iff_swap lawful).mpr (by simpa [afterStart, Option.any_eq_true] using after)
    obtain ⟨order, compared, notBelow⟩ := (AtMost.iff_swap lawful).mp (lawful.trans atMost below)
    rw [aboveLower, compared] at decided
    rw [← Option.some.inj decided]
    simpa using notBelow
  | .excluded (some bound) =>
    have beyond := (lawful.gt_iff value bound).mp (by simpa [afterStart] using after)
    have compared := (lawful.gt_iff greatest bound).mpr (AtMost.lt_trans lawful beyond below)
    rw [aboveLower, compared] at decided
    exact (Option.some.inj decided).symm

theorem belowUpper_of_before (above : AtMost ScalarOrder.partialCmp least value)
    {stop : Bound (ScalarValue Value)} (before : beforeStop value stop = true)
    (decided : belowUpper least stop = some hit) : hit = true := by
  match stop with
  | .included none | .excluded none => cases decided
  | .unbounded => exact (Option.some.inj decided).symm
  | .included (some bound) =>
    have atMost : AtMost ScalarOrder.partialCmp value bound := by
      simpa [AtMost, beforeStop, Option.any_eq_true] using before
    obtain ⟨order, compared, notAbove⟩ := lawful.trans above atMost
    rw [belowUpper, compared] at decided
    rw [← Option.some.inj decided]
    simpa using notAbove
  | .excluded (some bound) =>
    have under : ScalarOrder.partialCmp value bound = some .lt := by simpa [beforeStop] using before
    have compared := AtMost.trans_lt lawful above under
    rw [belowUpper, compared] at decided
    exact (Option.some.inj decided).symm

variable (above : AtMost ScalarOrder.partialCmp least value) (below : AtMost ScalarOrder.partialCmp value greatest)

include above below

/-- Bounds around a value contain every scalar equal to it. -/
theorem containsValue_of_same {asked : ScalarValue Value} (same : sameScalar (some value) asked = true)
    (decided : containsValue (some least) (some greatest) nulls asked = some hit) : hit = true := by
  cases asked with
  | none => cases same
  | some asked =>
    have equal : ScalarOrder.partialCmp value asked = some .eq := by simpa [sameScalar] using same
    obtain ⟨low, atLeast, notAbove⟩ := lawful.trans above (.of_eq equal)
    obtain ⟨high, atMost, notBelow⟩ := (AtMost.iff_swap lawful).mp (lawful.trans (.of_eq_swap lawful equal) below)
    rw [containsValue, atLeast, atMost] at decided
    have rest : some (high != .lt) = some hit := by simpa [notAbove] using decided
    rw [← Option.some.inj rest]
    simpa using notBelow

theorem containsAny_of_same {values : List (ScalarValue Value)}
    (listed : values.any (sameScalar (some value)) = true)
    (decided : containsAny (some least) (some greatest) nulls values = some hit) : hit = true := by
  induction values with
  | nil => cases listed
  | cons asked rest ih =>
    obtain ⟨first, contained, ⟨rfl, rfl⟩ | ⟨rfl, later⟩⟩ := containsAny_cons decided
    · rfl
    · rcases Bool.or_eq_true_iff.mp listed with here | there
      · exact absurd (containsValue_of_same lawful above below here contained) (by decide)
      · exact ih there later

theorem overlaps_of_selects (query : SargableQuery Value) (selected : query.selects (some value) = true)
    (decided : overlaps (some least) (some greatest) query nulls = some hit) : hit = true := by
  cases query with
  | equals asked => exact containsValue_of_same lawful above below selected decided
  | isIn values =>
    rw [overlaps] at decided
    split at decided
    · exact containsAny_of_same lawful above below selected decided
    · cases decided
  | range start stop =>
    obtain ⟨after, before⟩ := Bool.and_eq_true_iff.mp selected
    obtain ⟨passes, lower, rest⟩ := Option.bind_eq_some_iff.mp decided
    obtain ⟨reaches, upper, both⟩ := Option.bind_eq_some_iff.mp rest
    rw [← Option.some.inj both, aboveLower_of_after lawful below after lower,
      belowUpper_of_before lawful above before upper]
    rfl
  | isNull => cases selected
  | other tag => cases selected

/-- Without NULLs the test is conservative: a satisfying row between the bounds is never missed. -/
theorem matchesPage_of_selects (expr : ScalarIndexExpr Value) (selected : expr.selects (some value) = true)
    (decided : matchesPage expr (some least) (some greatest) nulls = some hit) : hit = true := by
  induction expr generalizing hit with
  | query search => exact overlaps_of_selects lawful above below search.query selected decided
  | and lhs rhs left right =>
    obtain ⟨inLeft, inRight⟩ := Bool.and_eq_true_iff.mp selected
    obtain ⟨one, first, ⟨rfl, rfl⟩ | ⟨rfl, second⟩⟩ := matchesPage_and decided
    · exact left inLeft first
    · exact right inRight second
  | or lhs rhs left right =>
    obtain ⟨one, first, ⟨rfl, rfl⟩ | ⟨rfl, second⟩⟩ := matchesPage_or decided
    · rfl
    · rcases Bool.or_eq_true_iff.mp selected with inLeft | inRight
      · exact absurd (left inLeft first) (by decide)
      · exact right inRight second
  | not inner => cases decided

end ValuePage

namespace Page

variable {page : Page Value} {expr : ScalarIndexExpr Value} {hit : Bool}

/-- A sorted page is missed exactly when its NULLs hide the rows that satisfy the expression. -/
theorem missed_iff_hidden (lawful : LawfulPartialCmp (@ScalarOrder.partialCmp Value _)) (sorted : page.Sorted)
    (decided : matchesPage expr page.minimum page.maximum page.nullCount = some hit) :
    (page.holds expr = true ∧ hit = false) ↔ page.hidden expr = true := by
  by_cases null : none ∈ page
  · rw [minimum_of_null sorted null] at decided
    rw [matchesPage_null (nullCount_ne_zero null) expr decided]
    simp [hidden, null, and_comm]
  · refine ⟨fun ⟨satisfied, missed⟩ => ?_, fun isHidden => ?_⟩
    · obtain ⟨row, member, selected⟩ := List.any_eq_true.mp satisfied
      obtain ⟨value, rfl⟩ := Option.ne_none_iff_exists'.mp fun isNull => null (isNull ▸ member)
      obtain ⟨least, greatest, first, last, above, below⟩ := bounds_of_value lawful sorted null member
      rw [first, last] at decided
      have counted := matchesPage_of_selects lawful above below expr selected decided
      exact absurd counted (by simp [missed])
    · simp [hidden, null] at isHidden

/-- The page estimate is off by the hidden pages one way and by the idle pages the other way. -/
theorem hit_balance (lawful : LawfulPartialCmp (@ScalarOrder.partialCmp Value _)) (sorted : page.Sorted)
    (decided : matchesPage expr page.minimum page.maximum page.nullCount = some hit) :
    hit.toNat + (page.hidden expr).toNat = (page.holds expr).toNat + (page.idle expr).toNat := by
  have missed := missed_iff_hidden lawful sorted decided
  have counted : page.idle expr = (!page.holds expr && hit) := by
    rw [idle, decided]
    cases hit <;> rfl
  rw [counted]
  cases satisfied : page.holds expr <;> cases found : page.hidden expr <;> cases hit <;> simp_all

end Page

theorem countP_balance {Item : Type} {one two three four : Item → Bool} {items : List Item}
    (balanced : ∀ item ∈ items,
      (one item).toNat + (two item).toNat = (three item).toNat + (four item).toNat) :
    items.countP one + items.countP two = items.countP three + items.countP four := by
  induction items with
  | nil => rfl
  | cons item rest ih =>
    have here := balanced item (List.mem_cons_self ..)
    have later := ih fun other member => balanced other (List.mem_cons_of_mem _ member)
    have counted (holds : Bool) : holds.toNat = if holds then 1 else 0 := by cases holds <;> rfl
    simp only [counted] at here
    simp only [List.countP_cons]
    omega

theorem countP_range {Item : Type} {byItem : Item → Bool} {items : List Item} {byIndex : Nat → Bool}
    (agree : ∀ index item, items[index]? = some item → byIndex index = byItem item) :
    (List.range items.length).countP byIndex = items.countP byItem := by
  induction items generalizing byIndex with
  | nil => rfl
  | cons item rest ih =>
    have later := @ih (byIndex ∘ Nat.succ) fun index other found => agree (index + 1) other found
    rw [List.length_cons, List.range_succ_eq_map, List.countP_cons, List.countP_map, later, List.countP_cons,
      agree 0 item rfl]

section Lookup

variable {batch : LookupBatch Value} {pages : List (Page Value)} {expr : ScalarIndexExpr Value}

/-- What the page loop asks of one row. -/
def matchesRow (batch : LookupBatch Value) (expr : ScalarIndexExpr Value) (nulls : Nat → Nat) (row : Nat) :
    Option Bool := do
  matchesPage expr (← batch.min row) (← batch.max row) (nulls row)

theorem countPages_cons {nulls : Nat → Nat} {row : Nat} {rest : List Nat} {pages total : Nat}
    (counted : countPages batch expr nulls (row :: rest) pages = some total) :
    ∃ hit, matchesRow batch expr nulls row = some hit ∧
      countPages batch expr nulls rest (pages + hit.toNat) = some total := by
  obtain ⟨min, least, afterMin⟩ := Option.bind_eq_some_iff.mp counted
  obtain ⟨max, greatest, afterMax⟩ := Option.bind_eq_some_iff.mp afterMin
  obtain ⟨hit, matched, later⟩ := Option.bind_eq_some_iff.mp afterMax
  refine ⟨hit, ?_, later⟩
  simp [matchesRow, least, greatest, matched]

/-- The loop counts the rows that match, and decides every one of them. -/
theorem countPages_eq_countP {nulls : Nat → Nat} {rows : List Nat} {pages total : Nat}
    (counted : countPages batch expr nulls rows pages = some total) :
    (∀ row ∈ rows, ∃ hit, matchesRow batch expr nulls row = some hit) ∧
      total = pages + rows.countP fun row => matchesRow batch expr nulls row == some true := by
  induction rows generalizing pages with
  | nil => exact ⟨by simp, (Option.some.inj counted).symm⟩
  | cons row rest ih =>
    obtain ⟨hit, matched, later⟩ := countPages_cons counted
    obtain ⟨decided, total⟩ := ih later
    refine ⟨fun other member => ?_, ?_⟩
    · rcases List.mem_cons.mp member with rfl | member
      · exact ⟨hit, matched⟩
      · exact decided other member
    · rw [total, List.countP_cons, matched]
      cases hit <;> simp
      omega

theorem matchesRow_eq (summary : Summarises batch pages) {nulls : Nat → Nat} (column : batch.nulls = some nulls)
    {row : Nat} {page : Page Value} (found : pages[row]? = some page) :
    matchesRow batch expr nulls row = matchesPage expr page.minimum page.maximum page.nullCount := by
  simp [matchesRow, summary.min row page found, summary.max row page found,
    summary.nulls nulls column row page found]

variable [Target]

/-- What an estimate is made of. -/
theorem estimatePages_eq_some {total : Nat} (estimate : estimatePages batch expr = some total) :
    ∃ nulls, batch.nulls = some nulls ∧ countPages batch expr nulls (List.range batch.numRows) 0 = some total := by
  unfold estimatePages at estimate
  split at estimate
  · cases estimate
  · obtain ⟨each, _, afterEach⟩ := Option.bind_eq_some_iff.mp estimate
    obtain ⟨comparisons, _, afterAll⟩ := Option.bind_eq_some_iff.mp afterEach
    split at afterAll
    · cases afterAll
    · obtain ⟨nulls, column, counted⟩ := Option.bind_eq_some_iff.mp afterAll
      exact ⟨nulls, column, counted⟩

theorem estimatePages_eq_countP (summary : Summarises batch pages) {total : Nat}
    (estimate : estimatePages batch expr = some total) :
    (∀ page ∈ pages, ∃ hit, matchesPage expr page.minimum page.maximum page.nullCount = some hit) ∧
      total = pages.countP fun page => matchesPage expr page.minimum page.maximum page.nullCount == some true := by
  obtain ⟨nulls, column, counted⟩ := estimatePages_eq_some estimate
  obtain ⟨decided, sum⟩ := countPages_eq_countP counted
  rw [summary.rows] at decided sum
  constructor
  · intro page member
    obtain ⟨row, found⟩ := List.mem_iff_getElem?.mp member
    obtain ⟨hit, matched⟩ := decided row (List.mem_range.mpr (List.getElem?_eq_some_iff.mp found).1)
    exact ⟨hit, matchesRow_eq summary column found ▸ matched⟩
  · rw [sum, Nat.zero_add]
    exact countP_range fun row page found => by rw [matchesRow_eq summary column found]

theorem estimatePages_balance (lawful : LawfulPartialCmp (@ScalarOrder.partialCmp Value _))
    (summary : Summarises batch pages) {total : Nat} (estimate : estimatePages batch expr = some total) :
    total + pages.countP (Page.hidden expr) = pages.countP (Page.holds expr) + pages.countP (Page.idle expr) := by
  obtain ⟨decided, sum⟩ := estimatePages_eq_countP summary estimate
  rw [sum]
  refine countP_balance fun page member => ?_
  obtain ⟨hit, matched⟩ := decided page member
  rw [matched, ← Page.hit_balance lawful (summary.sorted page member) matched]
  cases hit <;> rfl

/-- An estimate counts no fewer pages than hold a satisfying row exactly when the pages that
hide their rows behind NULLs are outnumbered by those counted for nothing. -/
theorem estimatePages_conservative_iff (lawful : LawfulPartialCmp (@ScalarOrder.partialCmp Value _))
    (summary : Summarises batch pages) {total : Nat} (estimate : estimatePages batch expr = some total) :
    pages.countP (Page.holds expr) ≤ total ↔ pages.countP (Page.hidden expr) ≤ pages.countP (Page.idle expr) := by
  have balance := estimatePages_balance lawful summary estimate
  omega

/-- In particular wherever no page mixes NULLs and values. -/
theorem estimatePages_of_unmixed (lawful : LawfulPartialCmp (@ScalarOrder.partialCmp Value _))
    (summary : Summarises batch pages) {total : Nat} (estimate : estimatePages batch expr = some total)
    (unmixed : ∀ page ∈ pages, none ∈ page → ∀ row ∈ page, row = none) :
    pages.countP (Page.holds expr) ≤ total := by
  have balance := estimatePages_balance lawful summary estimate
  have visible : pages.countP (Page.hidden expr) = 0 := by
    refine List.countP_eq_zero.mpr fun page member isHidden => ?_
    simp only [Page.hidden, Bool.and_eq_true, Page.holds, List.any_eq_true, Option.isNone_iff_eq_none] at isHidden
    obtain ⟨⟨⟨_, null, rfl⟩, unsatisfied⟩, row, inside, selected⟩ := isHidden
    rw [unmixed page member null row inside] at selected
    simp [selected] at unsatisfied
  omega

end Lookup

section Sample

/-- The lookup of the pages, as the writer makes it. -/
def lookupOf (pages : List (Page Value)) : LookupBatch Value where
  numColumns := 3
  numRows := pages.length
  min row := pages[row]?.map Page.minimum
  max row := pages[row]?.map Page.maximum
  nulls := some fun row => (pages[row]?.map Page.nullCount).getD 0

theorem summarises_lookupOf {pages : List (Page Value)} (sorted : ∀ page ∈ pages, page.Sorted) :
    Summarises (lookupOf pages) pages where
  rows := rfl
  sorted := sorted
  min row page found := by simp [lookupOf, found]
  max row page found := by simp [lookupOf, found]
  nulls counts column row page found := by
    cases column
    simp [found]

def sampleEquals : ScalarIndexExpr Nat := .query (sampleSearch "one")

theorem natOrder_lawful : LawfulPartialCmp natOrder.partialCmp := lawfulPartialCmp_compare

/-- The one page has the value looked for, behind a NULL: nothing is counted. -/
theorem estimatePages_undercounts :
    letI := target64
    letI := natOrder
    let pages : List (Page Nat) := [[none, some 15]]
    Summarises (lookupOf pages) pages ∧ estimatePages (lookupOf pages) sampleEquals = some 0 ∧
      pages.countP (Page.holds sampleEquals) = 1 :=
  letI := target64
  letI := natOrder
  ⟨summarises_lookupOf (by simp [Page.Sorted, NullsFirst]), by decide +kernel, by decide +kernel⟩

/-- A second page, counted for its bounds alone, makes up for the first one. -/
theorem estimatePages_conservative_sample :
    letI := target64
    letI := natOrder
    let pages : List (Page Nat) := [[none, some 15], [some 14, some 16]]
    pages.countP (Page.holds sampleEquals) ≤ 1 :=
  letI := target64
  letI := natOrder
  have ordered : AtMost ScalarOrder.partialCmp 14 16 := .of_lt rfl
  have summary : Summarises (lookupOf _) [[none, some 15], [some 14, some 16]] := summarises_lookupOf
    (by simpa [Page.Sorted, NullsFirst] using ordered)
  (estimatePages_conservative_iff natOrder_lawful summary (by decide +kernel)).mpr (by decide +kernel)

end Sample

end LanceC.Scalar
