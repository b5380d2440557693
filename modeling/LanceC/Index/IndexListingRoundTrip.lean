import LanceC.Index.IndexListing
import LanceC.Logic.Except

/-! When the index listing reads back as the indexes it lists. -/

namespace LanceC.Index

open Logic Json

section Text

/-- A quoted name in the text. -/
def quoted (name : String) (rest : List Char) : List Char := '"' :: (escapeQuotes name.toList ++ '"' :: rest)

/-- The members of an entry from its version on, and so backwards to its brace. -/
def versionMember (version : Nat) (rest : List Char) : List Char :=
  label ['d', 'a', 't', 'a', 's', 'e', 't', '_', 'v', 'e', 'r', 's', 'i', 'o', 'n']
    (Nat.toDigits 10 version ++ '}' :: rest)

def typeMember (type : String) (version : Nat) (rest : List Char) : List Char :=
  label ['t', 'y', 'p', 'e'] ('"' :: (type.toList ++ '"' :: ',' :: versionMember version rest))

def columnsMember (columns : List String) (type : String) (version : Nat) (rest : List Char) : List Char :=
  label ['c', 'o', 'l', 'u', 'm', 'n', 's'] ('[' :: itemsText quoted columns (',' :: typeMember type version rest))

def uuidMember (uuid : Uuid) (columns : List String) (type : String) (version : Nat) (rest : List Char) : List Char :=
  label ['u', 'u', 'i', 'd'] ('"' :: (uuid.text.toList ++ '"' :: ',' :: columnsMember columns type version rest))

def writeEntry (schema : Schema) (types : HashMap String String) (index : ManifestIndex) (rest : List Char) :
    List Char :=
  '{' :: label ['n', 'a', 'm', 'e'] (quoted index.name (',' :: uuidMember index.uuid (columnNames schema index)
    (typeName types index) index.datasetVersion rest))

/-- Entries joined by commas, as they are written one in front of the other. -/
theorem intercalate_toList {α : Type} {write : α → List Char → List Char} {print : α → String}
    (same : ∀ item rest, (print item).toList ++ rest = write item rest) (items : List α) (rest : List Char) :
    (",".intercalate (items.map print)).toList ++ ']' :: rest = itemsText write items rest := by
  induction items with
  | nil => rfl
  | cons item others ih =>
    cases others with
    | nil => simp [itemsText, ← same]
    | cons next others =>
      rw [List.map_cons, String.intercalate_cons_of_ne_nil (by simp), String.toList_append, String.toList_append,
        List.append_assoc, ih, List.append_assoc, same]
      rfl

theorem columnsJson_toList (columns : List String) (rest : List Char) :
    (columnsJson columns).toList ++ ']' :: rest = itemsText quoted columns rest :=
  intercalate_toList (fun column rest => by simp [quoted, replaceQuotes]) columns rest

theorem indexEntry_toList (schema : Schema) (types : HashMap String String) (index : ManifestIndex)
    (rest : List Char) : (indexEntry schema types index).toList ++ rest = writeEntry schema types index rest := by
  simp [indexEntry, replaceQuotes, writeEntry, uuidMember, columnsMember, typeMember, versionMember, label, quoted,
    ← columnsJson_toList]

theorem listingText_toList (schema : Schema) (types : HashMap String String) (listed : List ManifestIndex) :
    (listingText schema types listed).toList = '[' :: itemsText (writeEntry schema types) listed [] := by
  rw [← intercalate_toList (indexEntry_toList schema types)]
  simp [listingText]

end Text

section Names

variable {name : String} {columns : List String} {rest : List Char}

/-- A name that the listing transmits unharmed. -/
def PlainName (name : String) : Prop := Plain name.toList

theorem length_escapeQuotes (name : List Char) : name.length ≤ (escapeQuotes name).length := by
  induction name with
  | nil => exact Nat.le_refl 0
  | cons c name ih =>
    unfold escapeQuotes
    split
    · simp only [List.length_cons]
      omega
    · simpa using ih

theorem reads_quoted (plain : PlainName name) : Reads quoted (fun name => .string name.toList) name where
  grows rest := by
    simp only [quoted, List.length_cons, List.length_append]
    omega
  read fuel rest enough := by
    obtain ⟨fuel, rfl⟩ := Nat.exists_eq_add_one_of_ne_zero (Nat.ne_of_gt (Nat.zero_lt_of_lt enough))
    have fits : name.toList.length < (escapeQuotes name.toList ++ '"' :: rest).length + 1 := by
      have := length_escapeQuotes name.toList
      simp only [List.length_append]
      omega
    rw [quoted, parseValue_string, parseString_escapeQuotes plain fits]
    rfl

theorem itemsText_quoted (columns : List String) (nonempty : columns ≠ []) (rest : List Char) :
    ∃ text, itemsText quoted columns rest = '"' :: text := by
  match columns with
  | [] => exact absurd rfl nonempty
  | [column] => exact ⟨_, rfl⟩
  | column :: next :: others => exact ⟨_, rfl⟩

theorem parseValue_columns (plain : ∀ column ∈ columns, PlainName column) {fuel : Nat}
    (enough : Enough ('[' :: itemsText quoted columns rest) fuel) :
    parseValue fuel ('[' :: itemsText quoted columns rest) =
      some (.array (columns.map fun column => .string column.toList), rest) := by
  obtain ⟨fuel, rfl⟩ := Nat.exists_eq_add_one_of_ne_zero (Nat.ne_of_gt (Nat.zero_lt_of_lt enough))
  by_cases empty : columns = []
  · subst empty
    exact parseValue_emptyArray fuel rest
  · obtain ⟨text, starts⟩ := itemsText_quoted columns empty rest
    have left : Enough (itemsText quoted columns rest) (fuel - 1) := by
      simp only [Enough, List.length_cons] at enough ⊢
      omega
    have items := parseItems_itemsText (fun column member => reads_quoted (plain column member)) empty rest left
    rw [starts] at items ⊢
    rw [parseValue_array (by decide) (by decide), items]
    rfl

/-- A name read back as itself is plain, and all of its text has been taken. -/
theorem plain_of_parseQuoted {separator tail after : List Char} (verbatim : ∀ c ∈ separator, Verbatim c) {fuel : Nat}
    {value : Json} (parsed : parseValue fuel (quoted name (separator ++ '"' :: tail)) = some (value, after))
    (decoded : value.asString = some name) : PlainName name ∧ after = separator ++ '"' :: tail := by
  obtain ⟨out, rfl, read⟩ := parseValue_string_inv parsed
  have same : out = name.toList := by
    rw [← Option.some.inj decoded, String.toList_ofList]
  subst same
  have plain : PlainName name := plain_of_parseString verbatim read
  have fits : name.toList.length < (escapeQuotes name.toList ++ '"' :: (separator ++ '"' :: tail)).length + 1 := by
    have := length_escapeQuotes name.toList
    simp only [List.length_append]
    omega
  rw [parseString_escapeQuotes plain fits] at read
  exact ⟨plain, (congrArg Prod.snd (Option.some.inj read)).symm⟩

theorem mapM_cons_eq_some {α β : Type} {read : α → Option β} {first : α} {others : List α} {value : β}
    {values : List β}
    (decoded : (first :: others).mapM read = some (value :: values)) :
    read first = some value ∧ others.mapM read = some values := by
  simp only [List.mapM_cons, Option.bind_eq_bind, Option.bind_eq_some_iff] at decoded
  obtain ⟨head, first, tail, rest, same⟩ := decoded
  obtain ⟨rfl, rfl⟩ := List.cons.inj (Option.some.inj same)
  exact ⟨first, rest⟩

theorem plain_of_parseItems {tail after : List Char} {fuel : Nat} {items : List Json}
    (parsed : parseItems fuel (itemsText quoted columns (',' :: '"' :: tail)) = some (items, after))
    (decoded : items.mapM Json.asString = some columns) : ∀ column ∈ columns, PlainName column := by
  induction columns generalizing fuel items after with
  | nil => simp
  | cons column others ih =>
    obtain ⟨left, item, behind, _, first, continued⟩ := parseItems_inv parsed
    obtain ⟨rest, rfl⟩ := continueItems_head continued
    obtain ⟨head, rest'⟩ := mapM_cons_eq_some decoded
    cases others with
    | nil =>
      obtain ⟨plain, _⟩ := @plain_of_parseQuoted _ [']', ','] _ _ (by decide) _ _ first head
      simpa using plain
    | cons next others =>
      obtain ⟨text, starts⟩ := itemsText_quoted (next :: others) (List.cons_ne_nil _ _) (',' :: '"' :: tail)
      rw [itemsText, starts] at first
      obtain ⟨plain, rfl⟩ := @plain_of_parseQuoted _ [','] _ _ (by decide) _ _ first head
      exact List.forall_mem_cons.mpr ⟨plain, ih (starts ▸ continueItems_comma_inv continued) rest'⟩

theorem plain_of_parseColumns {tail after : List Char} {fuel : Nat} {value : Json}
    (parsed : parseValue fuel ('[' :: itemsText quoted columns (',' :: '"' :: tail)) = some (value, after))
    (decoded : decodeColumns value = some columns) : ∀ column ∈ columns, PlainName column := by
  by_cases empty : columns = []
  · simp [empty]
  · cases fuel with
    | zero => simp [parseValue] at parsed
    | succ fuel =>
      obtain ⟨text, starts⟩ := itemsText_quoted columns empty (',' :: '"' :: tail)
      rw [starts, parseValue_array (by decide) (by decide), Option.map_eq_some_iff] at parsed
      obtain ⟨⟨items, _⟩, inner, same⟩ := parsed
      obtain ⟨rfl, _⟩ := Prod.mk.inj same
      exact plain_of_parseItems (starts ▸ inner) decoded

end Names

section Entries

variable {schema : Schema} {types : HashMap String String} {index : ManifestIndex}

/-- The name of the index and the names of its columns are plain. -/
def PlainEntry (schema : Schema) (index : ManifestIndex) : Prop :=
  PlainName index.name ∧ ∀ column ∈ columnNames schema index, PlainName column

def entryValue (schema : Schema) (types : HashMap String String) (index : ManifestIndex) : Json :=
  .object [("name".toList, .string index.name.toList), ("uuid".toList, .string index.uuid.text.toList),
    ("columns".toList, .array ((columnNames schema index).map fun column => .string column.toList)),
    ("type".toList, .string (typeName types index).toList),
    ("dataset_version".toList, .number (Nat.toDigits 10 index.datasetVersion))]

theorem decodeEntry_entryValue (schema : Schema) (types : HashMap String String) (index : ManifestIndex) :
    decodeEntry (entryValue schema types index) = some (describedEntry schema types index) := by
  have columns : decodeColumns (.array ((columnNames schema index).map fun column => .string column.toList)) =
      some (columnNames schema index) := by
    simp only [decodeColumns, asArray, Option.bind_eq_bind, Option.bind_some]
    induction columnNames schema index with
    | nil => rfl
    | cons column others ih => simp [ih, asString]
  have name : (entryValue schema types index).member "name" = some (.string index.name.toList) := by
    simp [entryValue, member]
  have uuid : (entryValue schema types index).member "uuid" = some (.string index.uuid.text.toList) := by
    simp [entryValue, member, List.lookup_cons]
  have listed : (entryValue schema types index).member "columns" =
      some (.array ((columnNames schema index).map fun column => .string column.toList)) := by
    simp [entryValue, member, List.lookup_cons]
  have type : (entryValue schema types index).member "type" = some (.string (typeName types index).toList) := by
    simp [entryValue, member, List.lookup_cons]
  have version : (entryValue schema types index).member "dataset_version" =
      some (.number (Nat.toDigits 10 index.datasetVersion)) := by
    simp [entryValue, member, List.lookup_cons]
  simp only [decodeEntry, Option.bind_eq_bind, name, uuid, listed, type, version, Option.bind_some, asString,
    String.ofList_toList, Uuid.ofText_text, columns, asNat_toDigits, describedEntry]

theorem decodeEntry_inv {value : Json} {entry : IndexEntry} (decoded : decodeEntry value = some entry) :
    (∃ name, value.member "name" = some name ∧ name.asString = some entry.name) ∧
      ∃ columns, value.member "columns" = some columns ∧ decodeColumns columns = some entry.columns := by
  simp only [decodeEntry, Option.bind_eq_bind, Option.bind_eq_some_iff] at decoded
  obtain ⟨nameJson, nameFound, name, nameRead, _, _, _, _, uuid, _, columnsJson, columnsFound, columns, columnsRead,
    _, _, type, _, _, _, version, _, same⟩ := decoded
  obtain rfl := Option.some.inj same
  exact ⟨⟨nameJson, nameFound, nameRead⟩, columnsJson, columnsFound, columnsRead⟩

theorem parseValue_verbatim {word rest : List Char} (verbatim : ∀ c ∈ word, Verbatim c) (fuel : Nat) :
    parseValue (fuel + 1) ('"' :: (word ++ '"' :: rest)) = some (.string word, rest) := by
  have fits : word.length < (word ++ '"' :: rest).length + 1 := by
    simp only [List.length_append]
    omega
  rw [parseValue_string, parseString_append verbatim fits]
  rfl

theorem parseValue_object_label (key text : List Char) (fuel : Nat) :
    parseValue (fuel + 1) ('{' :: label key text) =
      (parseMembers fuel (label key text)).map fun read => (.object read.1, read.2) :=
  parseValue_object (by decide) (by decide) fuel _

@[simp] theorem length_label (key text : List Char) : (label key text).length = key.length + text.length + 3 := by
  simp only [label, List.length_cons, List.length_append]
  omega

theorem length_itemsText (columns : List String) (rest : List Char) :
    rest.length < (itemsText quoted columns rest).length := by
  induction columns with
  | nil => simp [itemsText]
  | cons column others ih =>
    cases others with
    | nil =>
      simp only [itemsText, quoted, List.length_cons, List.length_append]
      omega
    | cons next others =>
      simp only [itemsText, quoted, List.length_cons, List.length_append] at ih ⊢
      omega

theorem length_versionMember (version : Nat) (rest : List Char) :
    rest.length < (versionMember version rest).length := by
  simp only [versionMember, length_label, List.length_cons, List.length_append]
  omega

theorem length_typeMember (type : String) (version : Nat) (rest : List Char) :
    rest.length < (typeMember type version rest).length := by
  have := length_versionMember version rest
  simp only [typeMember, length_label, List.length_cons, List.length_append]
  omega

theorem reads_entry (plain : PlainEntry schema index) (typed : ∀ c ∈ (typeName types index).toList, Verbatim c) :
    Reads (writeEntry schema types) (entryValue schema types) index where
  grows rest := by
    have type := length_typeMember (typeName types index) index.datasetVersion rest
    have columns := length_itemsText (columnNames schema index)
      (',' :: typeMember (typeName types index) index.datasetVersion rest)
    simp only [writeEntry, uuidMember, columnsMember, quoted, length_label, List.length_cons, List.length_append]
      at columns ⊢
    omega
  read fuel rest enough := by
    simp only [Enough, writeEntry, uuidMember, columnsMember, quoted, length_label, List.length_cons,
      List.length_append] at enough
    obtain ⟨fuel, rfl⟩ : ∃ left, fuel = left + 8 := Nat.exists_eq_add_of_le' (by omega)
    have named : Enough (quoted index.name (',' :: uuidMember index.uuid (columnNames schema index)
        (typeName types index) index.datasetVersion rest)) (fuel + 6) := by
      simp only [Enough, uuidMember, columnsMember, quoted, length_label, List.length_cons, List.length_append]
      omega
    have listed : Enough ('[' :: itemsText quoted (columnNames schema index)
        (',' :: typeMember (typeName types index) index.datasetVersion rest)) (fuel + 4) := by
      simp only [Enough, List.length_cons]
      omega
    rw [writeEntry, parseValue_object_label, parseMembers_label (by decide),
      (reads_quoted plain.1).read _ _ named, Option.bind_some, continueMembers_comma, uuidMember,
      parseMembers_label (by decide), parseValue_verbatim index.uuid.text_verbatim, Option.bind_some,
      continueMembers_comma, columnsMember, parseMembers_label (by decide), parseValue_columns plain.2 listed,
      Option.bind_some, continueMembers_comma, typeMember, parseMembers_label (by decide), parseValue_verbatim typed,
      Option.bind_some, continueMembers_comma, versionMember, parseMembers_label (by decide), parseValue_nat,
      Option.bind_some, continueMembers_close]
    simp [entryValue]

/-- An entry that reads back as the index it describes has plain names only. -/
theorem plain_of_parseEntry {fuel : Nat} {value : Json} {rest after : List Char}
    (parsed : parseValue fuel (writeEntry schema types index rest) = some (value, after))
    (decoded : decodeEntry value = some (describedEntry schema types index)) : PlainEntry schema index := by
  obtain ⟨⟨name, nameFound, nameRead⟩, columns, columnsFound, columnsRead⟩ := decodeEntry_inv decoded
  cases fuel with
  | zero => simp [parseValue] at parsed
  | succ fuel =>
    rw [writeEntry, parseValue_object_label, Option.map_eq_some_iff] at parsed
    obtain ⟨⟨members, _⟩, read, same⟩ := parsed
    obtain ⟨rfl, _⟩ := Prod.mk.inj same
    obtain ⟨fuel, first, behind, _, nameParsed, continued⟩ := parseMembers_inv (by decide) read
    obtain ⟨others, rfl⟩ := continueMembers_head continued
    obtain rfl : first = name := by simpa [member, List.lookup_cons] using nameFound
    obtain ⟨plainName, rfl⟩ := @plain_of_parseQuoted _ [','] _ _ (by decide) _ _ nameParsed nameRead
    obtain ⟨fuel, uuid, behind, _, uuidParsed, continued⟩ :=
      parseMembers_inv (by decide) (continueMembers_comma_inv continued)
    obtain ⟨others, rfl⟩ := continueMembers_head continued
    obtain ⟨_, _, uuidRead⟩ := parseValue_string_inv uuidParsed
    obtain ⟨_, rfl⟩ := parseString_append_inv index.uuid.text_verbatim uuidRead
    obtain ⟨fuel, listed, behind, _, columnsParsed, continued⟩ :=
      parseMembers_inv (by decide) (continueMembers_comma_inv continued)
    obtain ⟨others, rfl⟩ := continueMembers_head continued
    obtain rfl : listed = columns := by simpa [member, List.lookup_cons] using columnsFound
    exact ⟨plainName, plain_of_parseColumns columnsParsed columnsRead⟩

/-- The entries of a listing that reads back as the described indexes are plain. -/
theorem plain_of_parseEntries {fuel : Nat} {listed : List ManifestIndex} {items : List Json}
    {rest after : List Char}
    (typed : ∀ index ∈ listed, ∀ c ∈ (typeName types index).toList, Verbatim c)
    (enough : Enough (itemsText (writeEntry schema types) listed rest) (fuel - 1))
    (parsed : parseItems fuel (itemsText (writeEntry schema types) listed rest) = some (items, after))
    (decoded : items.mapM decodeEntry = some (listed.map (describedEntry schema types))) :
    ∀ index ∈ listed, PlainEntry schema index := by
  induction listed generalizing fuel items with
  | nil => simp
  | cons index others ih =>
    obtain ⟨indexTyped, othersTyped⟩ := List.forall_mem_cons.mp typed
    obtain ⟨left, item, behind, rfl, first, continued⟩ := parseItems_inv parsed
    obtain ⟨later, rfl⟩ := continueItems_head continued
    obtain ⟨head, laterDecoded⟩ := mapM_cons_eq_some decoded
    cases others with
    | nil => simpa using plain_of_parseEntry first head
    | cons next others =>
      have plain := plain_of_parseEntry first head
      have reads := reads_entry plain indexTyped
      have forward := reads.read left (',' :: itemsText (writeEntry schema types) (next :: others) rest) enough
      rw [itemsText, forward] at first
      obtain ⟨_, rfl⟩ := Prod.mk.inj (Option.some.inj first)
      exact List.forall_mem_cons.mpr ⟨plain,
        ih othersTyped (enough_later reads enough) (continueItems_comma_inv continued) laterDecoded⟩

theorem itemsText_entries (listed : List ManifestIndex) (nonempty : listed ≠ []) (rest : List Char) :
    ∃ text, itemsText (writeEntry schema types) listed rest = '{' :: text := by
  match listed with
  | [] => exact absurd rfl nonempty
  | [index] => exact ⟨_, rfl⟩
  | index :: next :: others => exact ⟨_, rfl⟩

theorem mapM_decodeEntry (listed : List ManifestIndex) :
    (listed.map (entryValue schema types)).mapM decodeEntry = some (listed.map (describedEntry schema types)) := by
  induction listed with
  | nil => rfl
  | cons index others ih => simp [decodeEntry_entryValue, ih]

/-- A listing reads back as the indexes it describes exactly where their names are plain. -/
theorem decodeListing_listingText (listed : List ManifestIndex)
    (typed : ∀ index ∈ listed, ∀ c ∈ (typeName types index).toList, Verbatim c) :
    decodeListing (listingText schema types listed) = some (listed.map (describedEntry schema types)) ↔
      ∀ index ∈ listed, PlainEntry schema index := by
  rw [decodeListing, listingText_toList]
  by_cases empty : listed = []
  · subst empty
    simp [itemsText, parse, asArray]
    rfl
  · obtain ⟨text, starts⟩ := @itemsText_entries schema types listed empty []
    have enough : Enough (itemsText (writeEntry schema types) listed [])
        (2 * (itemsText (writeEntry schema types) listed []).length + 3 - 1) := by
      unfold Enough
      omega
    simp only [Option.bind_eq_bind, Option.bind_eq_some_iff]
    constructor
    · rintro ⟨json, parsed, array, items, decoded⟩
      rw [starts, parse_array (by decide) (by decide), ← starts] at parsed
      obtain ⟨_, rest, parsed, _, rfl⟩ := parsed
      obtain rfl := Option.some.inj items
      exact plain_of_parseEntries typed enough parsed decoded
    · intro plain
      have parsed := parseItems_itemsText (fun index member => reads_entry (plain index member) (typed index member))
        empty [] enough
      refine ⟨.array (listed.map (entryValue schema types)), ?_, _, rfl, mapM_decodeEntry listed⟩
      rw [starts, parse_array (by decide) (by decide), ← starts]
      exact ⟨_, [], parsed, rfl, rfl⟩

end Entries

section Call

variable {catalog : IndexCatalog} {handle : LanceDataset} {indices : List ManifestIndex}
  {descriptions : List (String × String)}

/-- Lance's own type names need no escaping. -/
def PlainTypes (descriptions : List (String × String)) : Prop :=
  ∀ description ∈ descriptions, ∀ c ∈ description.2.toList, Verbatim c

theorem lookup_foldl_insert {P : String → Prop} (known : ∀ description ∈ descriptions, P description.2)
    (start : HashMap String String) (old : ∀ name type, start.lookup name = some type → P type)
    (name type : String)
    (found : (descriptions.foldl (fun map description => map.insert description.1 description.2) start).lookup name =
      some type) : P type := by
  induction descriptions generalizing start with
  | nil => exact old name type found
  | cons description others ih =>
    obtain ⟨head, rest⟩ := List.forall_mem_cons.mp known
    refine ih rest (start.insert description.1 description.2) (fun other value stored => ?_) found
    by_cases same : other = description.1
    · subst same
      rw [AList.lookup_insert, Option.some_inj] at stored
      exact stored ▸ head
    · exact old other value (by rwa [AList.lookup_insert_ne same] at stored)

theorem typeName_verbatim (plain : PlainTypes descriptions) (index : ManifestIndex) :
    ∀ c ∈ (typeName (typeByName descriptions) index).toList, Verbatim c := by
  rw [typeName]
  cases found : (typeByName descriptions).lookup index.name with
  | none => decide
  | some type =>
    exact @lookup_foldl_insert _ (fun type => ∀ c ∈ type.toList, Verbatim c) plain ∅ (fun name type stored => by
      simp at stored) index.name type found

theorem nul_notMem_plain {name : List Char} (plain : Plain name) : Char.ofNat 0 ∉ escapeQuotes name := by
  induction name with
  | nil => simp [escapeQuotes]
  | cons c name ih =>
    obtain ⟨⟨_, printable⟩, rest⟩ := plain_cons.mp plain
    have other : Char.ofNat 0 ≠ c := by
      rintro rfl
      exact absurd printable (by decide)
    unfold escapeQuotes
    split
    · simpa using ih rest
    · simpa using ⟨other, ih rest⟩

theorem nul_notMem_verbatim {word : List Char} (verbatim : ∀ c ∈ word, Verbatim c) : Char.ofNat 0 ∉ word :=
  fun member => absurd (verbatim _ member).2.2 (by decide)

theorem nul_notMem_itemsText {α : Type} {write : α → List Char → List Char} {items : List α} {rest : List Char}
    (writes : ∀ item ∈ items, ∀ text, Char.ofNat 0 ∉ text → Char.ofNat 0 ∉ write item text)
    (clean : Char.ofNat 0 ∉ rest) : Char.ofNat 0 ∉ itemsText write items rest := by
  induction items with
  | nil => simpa [itemsText] using clean
  | cons item others ih =>
    obtain ⟨head, later⟩ := List.forall_mem_cons.mp writes
    cases others with
    | nil => exact head _ (by simpa using clean)
    | cons next others => exact head _ (by simpa using ih later)

theorem nul_notMem {schema : Schema} {types : HashMap String String} {listed : List ManifestIndex}
    (typed : ∀ index ∈ listed, ∀ c ∈ (typeName types index).toList, Verbatim c)
    (plain : ∀ index ∈ listed, PlainEntry schema index) :
    Char.ofNat 0 ∉ (listingText schema types listed).toList := by
  rw [listingText_toList, List.mem_cons, not_or]
  refine ⟨by decide, nul_notMem_itemsText (fun index member text clean => ?_) (by simp)⟩
  have name := nul_notMem_plain (plain index member).1
  have uuid := nul_notMem_verbatim index.uuid.text_verbatim
  have type := nul_notMem_verbatim (typed index member)
  have version : Char.ofNat 0 ∉ Nat.toDigits 10 index.datasetVersion := fun digit =>
    absurd (Nat.isDigit_of_mem_toDigits (by decide) (by decide) digit) (by decide)
  have columns : Char.ofNat 0 ∉ itemsText quoted (columnNames schema index)
      (',' :: typeMember (typeName types index) index.datasetVersion text) := by
    refine nul_notMem_itemsText (fun column listed rest clean => ?_) ?_
    · simpa [quoted] using ⟨nul_notMem_plain ((plain index member).2 column listed), clean⟩
    · simpa [typeMember, versionMember, label] using ⟨type, version, clean⟩
  simpa [writeEntry, uuidMember, columnsMember, label, quoted] using ⟨name, uuid, columns⟩

/-- The call on a valid handle returns a text that decodes to the listed indexes
exactly where no listed index or column name has a backslash or a control character. -/
theorem index_list_round_trip (loaded : catalog.loadIndices handle.snapshot.value = .ok indices)
    (described : catalog.describeIndices handle.snapshot.value = .ok descriptions)
    (types : PlainTypes descriptions) :
    (∃ text, indexListJsonInner catalog (some handle) = .ok (some text) ∧
      decodeListing text = some ((userIndices catalog indices).map
        (describedEntry handle.snapshot.value.schema (typeByName descriptions)))) ↔
      ∀ index ∈ userIndices catalog indices, PlainEntry handle.snapshot.value.schema index := by
  have typed := fun index (_ : index ∈ userIndices catalog indices) => typeName_verbatim types index
  have outcome : indexListJsonInner catalog (some handle) =
      .ok (if Char.ofNat 0 ∈ (listingText handle.snapshot.value.schema (typeByName descriptions)
          (userIndices catalog indices)).toList then none
        else some (listingText handle.snapshot.value.schema (typeByName descriptions)
          (userIndices catalog indices))) := by
    simp [indexListJsonInner, loaded, described, bind, Except.bind, pure, Except.pure]
  rw [outcome, ← decodeListing_listingText _ typed]
  constructor
  · rintro ⟨text, returned, decoded⟩
    split at returned
    · exact nomatch returned
    · exact Option.some.inj (Except.ok.inj returned) ▸ decoded
  · intro decoded
    have clean := nul_notMem typed ((decodeListing_listingText _ typed).mp decoded)
    exact ⟨_, by rw [if_neg clean], decoded⟩

end Call

section Sample

/-- A catalog with one index of the name. -/
def catalogOf (name : String) : IndexCatalog where
  loadIndices _ := .ok [⟨⟨7, name, some 4, some [0], none⟩, [4], 3⟩]
  describeIndices _ := .ok [(name, "BTree")]
  isSystemIndex _ := false

theorem backslash_breaks_listing :
    ¬∃ text, indexListJsonInner (catalogOf "C:\\idx") (some LanceDataset.sampleHandle) = .ok (some text) ∧
      decodeListing text = some [⟨"C:\\idx", 7, [], "BTree", 3⟩] := by
  have returned : indexListJsonInner (catalogOf "C:\\idx") (some LanceDataset.sampleHandle) = .ok (some
      "[\x7b\"name\":\"C:\\idx\",\"uuid\":\"00000000-0000-0000-0000-000000000007\",\"columns\":[],\"type\":\"BTree\",\"dataset_version\":3\x7d]") := by
    decide +kernel
  rintro ⟨text, listed, decoded⟩
  obtain rfl := Option.some.inj (Except.ok.inj (returned.symm.trans listed))
  exact absurd decoded (by decide +kernel)

theorem index_list_round_trip_sample :
    ∃ text, indexListJsonInner (catalogOf "say \"hi\"") (some LanceDataset.sampleHandle) = .ok (some text) ∧
      decodeListing text = some [⟨"say \"hi\"", 7, [], "BTree", 3⟩] := by
  obtain ⟨text, returned, decoded⟩ := (@index_list_round_trip (catalogOf "say \"hi\"") LanceDataset.sampleHandle _ _
    rfl rfl (by unfold PlainTypes; decide +kernel)).mpr (by unfold PlainEntry PlainName; decide +kernel)
  exact ⟨text, returned, decoded.trans (by decide +kernel)⟩

end Sample

end LanceC.Index
