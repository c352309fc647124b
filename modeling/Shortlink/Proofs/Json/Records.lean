import Shortlink.Proofs.Json.Reading

/-!
# Printed records and lists are read back

An object is read member by member into a draft. What the members make of a draft is said
without any text, so a record is read back as soon as each of its fields is.
-/

namespace Shortlink.Json

open Reader

variable {δ α β : Type}

theorem isSolid_comma : isBlank ',' = false := by decide
theorem isSolid_colon : isBlank ':' = false := by decide
theorem isSolid_openBrace : isBlank '\x7b' = false := by decide
theorem isSolid_closeBrace : isBlank '\x7d' = false := by decide
theorem isSolid_openBracket : isBlank '[' = false := by decide
theorem isSolid_closeBracket : isBlank ']' = false := by decide

/-! ## Members of objects -/

/-- The text of the members that are left of an object, after those that have been read. -/
def remainingMembers (first : Bool) (members : List (String × Json)) : List Char :=
  if first || members.isEmpty then separated (printMembers members)
  else ',' :: separated (printMembers members)

theorem remainingMembers_cons (first : Bool) (name : String) (value : Json)
    (members : List (String × Json)) :
    remainingMembers first ((name, value) :: members) =
      (if first then [] else [',']) ++ (printText name.toList ++ ':' :: (print value ++
        remainingMembers false members)) := by
  cases first with
  | true =>
      cases members with
      | nil => simp [remainingMembers, printMembers, separated]
      | cons member members => simp [remainingMembers, printMembers, separated]
  | false =>
      cases members with
      | nil => simp [remainingMembers, printMembers, separated]
      | cons member members => simp [remainingMembers, printMembers, separated]

theorem nextMember_eq_true (first : Bool) (rest : List Char) :
    nextMember first ((if first then [] else [',']) ++ '"' :: rest) =
      .ok (true, '"' :: rest) := by
  cases first with
  | true =>
      simp only [if_true, List.nil_append]
      rw [nextMember, peek_bind isSolid_quote]
      rfl
  | false =>
      change nextMember false (',' :: '"' :: rest) = _
      rw [nextMember, peek_bind isSolid_comma]
      change (skip >>= fun _ => peek >>= _) _ = _
      rw [skip_bind, peek_bind isSolid_quote]
      rfl

theorem nextName_cons (first : Bool) (name : String) (value : Json)
    (members : List (String × Json)) (rest : List Char) :
    nextName first (remainingMembers first ((name, value) :: members) ++ rest) =
      .ok (some name, ':' :: (print value ++ (remainingMembers false members ++ rest))) := by
  have string := reads_stringRest name.toList
  rw [String.ofList_toList] at string
  have spelled : remainingMembers first ((name, value) :: members) ++ rest =
      (if first then [] else [',']) ++ '"' :: ((name.toList.flatMap escapeChar ++ ['"']) ++
        ':' :: (print value ++ (remainingMembers false members ++ rest))) := by
    rw [remainingMembers_cons, printText]
    simp only [List.append_assoc, List.cons_append]
  rw [spelled, nextName, bind_eq_of_ok (nextMember_eq_true first _)]
  change (skip >>= fun _ => some <$> stringRest) _ = _
  rw [skip_bind, string.map]

theorem nextName_nil (first : Bool) (rest : List Char) :
    nextName first (remainingMembers first [] ++ '\x7d' :: rest) = .ok (none, '\x7d' :: rest) := by
  have nothing : remainingMembers first [] = [] := by
    simp [remainingMembers, printMembers, separated]
  have ended : nextMember first ('\x7d' :: rest) = .ok (false, '\x7d' :: rest) := by
    rw [nextMember, peek_bind isSolid_closeBrace]
    rfl
  rw [nothing, List.nil_append, nextName, bind_eq_of_ok ended]
  rfl

theorem length_le_remainingMembers (first : Bool) (members : List (String × Json)) :
    members.length ≤ (remainingMembers first members).length := by
  induction members generalizing first with
  | nil => exact Nat.zero_le _
  | cons member members ih =>
      have shorter := ih false
      rw [remainingMembers_cons]
      simp only [List.length_append, List.length_cons]
      omega

theorem colon_eq (rest : List Char) : colon (':' :: rest) = .ok ((), rest) := by
  rw [colon, peek_bind isSolid_colon]
  rfl

theorem endObject_eq (rest : List Char) : endObject ('\x7d' :: rest) = .ok ((), rest) := by
  rw [endObject, peek_bind isSolid_closeBrace]
  rfl

namespace Record

/-- What members make of a draft: each of them is a field that is not set yet and is read
back from its print. -/
def Fills (fields : List (Field δ)) (depth : Nat) : List (String × Json) → δ → δ → Prop
  | [], draft, filled => draft = filled
  | (name, value) :: members, draft, filled =>
    ∃ field next, fields.find? (·.name == name) = some field ∧ field.isSet draft = false ∧
      Reads (field.read draft depth) (print value) next ∧
      Fills fields depth members next filled

theorem readMembers_of_fills {fields : List (Field δ)} {depth : Nat}
    {members : List (String × Json)} {draft filled : δ}
    (fills : Fills fields depth members draft filled) {steps : Nat}
    (enough : members.length < steps) (first : Bool) (rest : List Char) :
    readMembers fields depth steps first draft
        (remainingMembers first members ++ '\x7d' :: rest) =
      .ok (filled, '\x7d' :: rest) := by
  induction members generalizing steps first draft with
  | nil =>
      cases steps with
      | zero => contradiction
      | succ steps =>
          rw [readMembers, bind_eq_of_ok (nextName_nil first rest),
            ← show draft = filled from fills]
          rfl
  | cons member members ih =>
      obtain ⟨name, value⟩ := member
      obtain ⟨field, next, found, unset, reads, fills⟩ := fills
      cases steps with
      | zero => contradiction
      | succ steps =>
          rw [List.length_cons, Nat.add_lt_add_iff_right] at enough
          rw [readMembers, bind_eq_of_ok (nextName_cons first name value members _)]
          simp only [found, unset]
          change (colon >>= fun _ => field.read draft depth >>= fun draft =>
            readMembers fields depth steps false draft) _ = _
          rw [bind_eq_of_ok (colon_eq _), bind_eq_of_ok (reads _)]
          exact ih fills enough false

/-- A field of text puts into a draft what its text stands for. -/
theorem reads_textField {name : String} {form : TextForm β} {text : String} {value : β}
    (parsed : form.parse text = .ok value) (get : δ → Option β) (set : δ → β → δ) (draft : δ)
    (depth : Nat) :
    Reads ((TextField.of name form get set).toField.read draft depth) (print (.text text))
      (set draft value) := by
  have put : ((TextField.of name form get set).form draft).parse text = .ok (set draft value) := by
    change (form.parse text).map (set draft) = .ok (set draft value)
    rw [parsed]
    rfl
  rw [print]
  exact reads_textOf put

theorem finished_eq {record : Record δ α} {draft : δ} {value : α}
    (finished : record.finish draft = .ok value) :
    Record.read.finished record draft = pure value := by
  rw [Record.read.finished, finished]

/-- A record is read back from an object whose members fill its draft. -/
theorem reads_of_fills {record : Record δ α} {depth : Nat} {members : List (String × Json)}
    {filled : δ} {value : α} (fills : Fills record.fields (depth + 1) members record.empty filled)
    (finished : record.finish filled = .ok value) :
    Reads (record.read (depth + 2)) (print (.object members)) value := by
  intro rest
  let text := remainingMembers true members ++ '\x7d' :: rest
  have whole : print (.object members) ++ rest = '\x7b' :: text := by
    simp [print, remainingMembers, text]
  have enough : members.length < text.length + 1 := by
    have shorter := length_le_remainingMembers true members
    simp only [text, List.length_append]
    omega
  have opened : nested (depth + 2) ('\x7b' :: text) = .ok (depth + 1, '\x7b' :: text) := rfl
  have shown : (get : Reader (List Char)) text = .ok (text, text) := rfl
  rw [whole, read, peek_bind isSolid_openBrace]
  change (nested (depth + 2) >>= fun depth => skip >>= fun _ => get >>= fun text => _) _ = _
  rw [bind_eq_of_ok opened, skip_bind, bind_eq_of_ok shown,
    bind_eq_of_ok (readMembers_of_fills fills enough true rest)]
  rw [finished_eq finished, pure_bind, bind_eq_of_ok (endObject_eq rest)]
  rfl

end Record

/-! ## Lists -/

/-- The text of the items that are left of a list, after those that have been read. -/
def remainingItems (first : Bool) (items : List Json) : List Char :=
  if first || items.isEmpty then separated (printItems items)
  else ',' :: separated (printItems items)

theorem remainingItems_cons (first : Bool) (item : Json) (items : List Json) :
    remainingItems first (item :: items) =
      (if first then [] else [',']) ++ (print item ++ remainingItems false items) := by
  cases first with
  | true =>
      cases items with
      | nil => simp [remainingItems, printItems, separated]
      | cons next items => simp [remainingItems, printItems, separated]
  | false =>
      cases items with
      | nil => simp [remainingItems, printItems, separated]
      | cons next items => simp [remainingItems, printItems, separated]

/-- The text of a value begins with a character that a list reader takes for an item. -/
def StartsItem (text : List Char) : Prop :=
  ∃ c rest, text = c :: rest ∧ isBlank c = false ∧ c ≠ ']'

theorem startsItem_object (members : List (String × Json)) :
    StartsItem (print (.object members)) :=
  ⟨'\x7b', _, rfl, by decide, by decide⟩

theorem nextItem_eq_true (first : Bool) {text : List Char} (starts : StartsItem text)
    (rest : List Char) :
    nextItem first ((if first then [] else [',']) ++ (text ++ rest)) =
      .ok (true, text ++ rest) := by
  obtain ⟨c, more, rfl, solid, notEnd⟩ := starts
  cases first with
  | true =>
      simp only [if_true, List.nil_append, List.cons_append]
      rw [nextItem, peek_bind solid]
      simp
      rfl
  | false =>
      change nextItem false (',' :: c :: (more ++ rest)) = _
      rw [nextItem, peek_bind isSolid_comma]
      change (skip >>= fun _ => peek >>= _) _ = _
      rw [skip_bind, peek_bind solid]
      simp
      rfl

theorem nextItem_nil (first : Bool) (rest : List Char) :
    nextItem first (remainingItems first [] ++ ']' :: rest) = .ok (false, ']' :: rest) := by
  have nothing : remainingItems first [] = [] := by
    simp [remainingItems, printItems, separated]
  rw [nothing, List.nil_append, nextItem, peek_bind isSolid_closeBracket]
  rfl

theorem endList_eq (rest : List Char) : endList (']' :: rest) = .ok ((), rest) := by
  rw [endList, peek_bind isSolid_closeBracket]
  rfl

theorem length_le_remainingItems {items : List Json}
    (starts : ∀ item ∈ items, StartsItem (print item)) (first : Bool) :
    items.length ≤ (remainingItems first items).length := by
  induction items generalizing first with
  | nil => exact Nat.zero_le _
  | cons item items ih =>
      rw [List.forall_mem_cons] at starts
      obtain ⟨c, more, spelled, -, -⟩ := starts.1
      have shorter := ih starts.2 false
      rw [remainingItems_cons, spelled]
      simp only [List.length_append, List.length_cons]
      omega

theorem items_eq {toJson : α → Json} {reader : Reader α} {values : List α}
    (starts : ∀ value ∈ values, StartsItem (print (toJson value)))
    (reads : ∀ value ∈ values, Reads reader (print (toJson value)) value) {steps : Nat}
    (enough : values.length < steps) (first : Bool) (taken : List α) (rest : List Char) :
    Reader.items reader steps first taken
        (remainingItems first (values.map toJson) ++ ']' :: rest) =
      .ok (taken.reverse ++ values, ']' :: rest) := by
  induction values generalizing steps first taken with
  | nil =>
      cases steps with
      | zero => contradiction
      | succ steps =>
          rw [Reader.items, List.map_nil, bind_eq_of_ok (nextItem_nil first rest)]
          simp only [List.append_nil]
          rfl
  | cons value values ih =>
      rw [List.forall_mem_cons] at starts reads
      cases steps with
      | zero => contradiction
      | succ steps =>
          rw [List.length_cons, Nat.add_lt_add_iff_right] at enough
          rw [Reader.items, List.map_cons, remainingItems_cons]
          simp only [List.append_assoc]
          rw [bind_eq_of_ok (nextItem_eq_true first starts.1 _)]
          change (reader >>= fun value => Reader.items reader steps false (value :: taken)) _ = _
          rw [bind_eq_of_ok (reads.1 _), ih starts.2 reads.2 enough]
          simp

/-- A list is read back if its items are. -/
theorem reads_listOf {toJson : α → Json} {reader : Nat → Reader α} {depth : Nat}
    {values : List α} (starts : ∀ value ∈ values, StartsItem (print (toJson value)))
    (reads : ∀ value ∈ values, Reads (reader (depth + 1)) (print (toJson value)) value) :
    Reads (listOf reader (depth + 2)) (print (.list (values.map toJson))) values := by
  intro rest
  let text := remainingItems true (values.map toJson) ++ ']' :: rest
  have whole : print (.list (values.map toJson)) ++ rest = '[' :: text := by
    simp [print, remainingItems, text]
  have enough : values.length < text.length + 1 := by
    have starts : ∀ item ∈ values.map toJson, StartsItem (print item) := by simpa using starts
    have shorter := length_le_remainingItems starts true
    rw [List.length_map] at shorter
    simp only [text, List.length_append]
    omega
  have opened : nested (depth + 2) ('[' :: text) = .ok (depth + 1, '[' :: text) := rfl
  have shown : (get : Reader (List Char)) text = .ok (text, text) := rfl
  rw [whole, listOf, peek_bind isSolid_openBracket]
  change (nested (depth + 2) >>= fun depth => skip >>= fun _ => get >>= fun text => _) _ = _
  rw [bind_eq_of_ok opened, skip_bind, bind_eq_of_ok shown,
    bind_eq_of_ok (items_eq starts reads enough true [] rest), bind_eq_of_ok (endList_eq rest)]
  rfl

/-! ## Whole texts -/

/-- What is read back from a whole text. -/
theorem readAll_of_reads {reader : Nat → Reader α} {text : List Char} {value : α}
    (reads : Reads (reader maxDepth) text value) : readAll reader text = .ok value := by
  have whole := reads []
  rw [List.append_nil] at whole
  rw [readAll, whole]
  rfl

end Shortlink.Json
