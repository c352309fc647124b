import Shortlink.Proofs.Link.Code
import Shortlink.Proofs.Store.Tables

/-!
# The codes of stored URLs

A new URL is stored only if no row has its code. The new state of a URL takes the place of the
whole row with its id, and nobody looks at its code: it becomes the code of that row, whatever the
row had before and whatever the other rows have. A database is told the columns to write instead,
and the code is none of them.
-/

namespace Shortlink

open Time (Moment)

/-! ## In a database -/

namespace Postgres

/-- The columns that a statement writes: the words before a sign of equality that stand between
`SET` and `WHERE`. -/
def Statement.assigned (statement : Statement) : List (List Char) :=
  let assignments := ((Migration.words statement.sql).dropWhile (· != "SET".toList)).takeWhile
    (· != "WHERE".toList)
  ((assignments.zip assignments.tail).filter (·.2 == ['='])).map (·.1)

set_option maxRecDepth 8000 in
theorem LinkTable.assigned_updateStatement (link : Link) (audit : Audit) :
    (updateStatement link audit).assigned =
      ["original_url".toList, "short_url".toList, "updated_on_utc".toList,
        "is_active".toList] := by
  have letters : (updateStatement link audit).sql.toList = _ := String.toList_ofList
  rw [Statement.assigned, Migration.words, letters]
  decide +kernel

/-- The statement that writes a new state is the same whatever its code. -/
theorem LinkTable.updateStatement_code (link : Link) (audit : Audit) (code : String) :
    updateStatement { link with code := code } audit = updateStatement link audit := rfl

end Postgres

/-! ## In memory -/

namespace Store

/-- The row that a new state would take the place of: the first with its id. -/
def row? (store : Store) (id : Uuid) : Option Link := store.links.find? (·.id == id)

/-- The codes of all rows. -/
def codes (store : Store) : List String := store.links.map Link.code

variable {store : Store} {link : Link} {change : Change} {now : Moment}

theorem row?_eq_some {front back : List Link} {old : Link} {id : Uuid}
    (rows : store.links = front ++ old :: back) (isOld : old.id = id)
    (before : ∀ row ∈ front, row.id ≠ id) : store.row? id = some old := by
  rw [row?, rows, List.find?_append, List.find?_eq_none.mpr, Option.none_or,
    List.find?_cons_of_pos (by simpa using isOld)]
  simpa using before

/-- Another code in the place of one of distinct codes leaves them distinct exactly if no other row
has it. -/
theorem nodup_replaced_iff {front back : List Link} {old : Link} {code : String}
    (distinct : ((front ++ old :: back).map Link.code).Nodup) :
    (front.map Link.code ++ code :: back.map Link.code).Nodup ↔
      ∀ row ∈ front ++ old :: back, row.code = code → row = old := by
  rw [List.map_append, List.map_cons, List.nodup_middle, ← List.map_append,
    List.nodup_cons] at distinct
  rw [List.nodup_middle, ← List.map_append, List.nodup_cons, and_iff_left distinct.2]
  constructor
  · intro isNew row member same
    rw [List.mem_append, List.mem_cons, or_left_comm, ← List.mem_append] at member
    rcases member with isOld | isOther
    · exact isOld
    · exact absurd (same ▸ List.mem_map_of_mem isOther) isNew
  · intro others isTaken
    obtain ⟨row, isOther, same⟩ := List.mem_map.mp isTaken
    have member : row ∈ front ++ old :: back := by
      rw [List.mem_append, List.mem_cons, or_left_comm, ← List.mem_append]
      exact .inr isOther
    exact distinct.1 (others row member same ▸ List.mem_map_of_mem isOther)

/-- All that storing a new state does to the codes: nothing if it fails, and otherwise the row
with the id gets the code of the new state. -/
theorem codes_update_cases (store : Store) (link : Link) (change : Change) (now : Moment) :
    ((store.update link change now).1.result ≠ .ok () ∧
        (store.update link change now).2.codes = store.codes) ∨
      ((store.update link change now).1.result = .ok () ∧ ∃ front old back,
        store.links = front ++ old :: back ∧ store.row? link.id = some old ∧
          (store.update link change now).2.codes =
            front.map Link.code ++ link.code :: back.map Link.code) := by
  rcases update_cases store link change now with ⟨-, failure, failed⟩ | ⟨-, stored, written⟩
  · left
    rw [failed]
    exact ⟨nofun, rfl⟩
  · right
    have present : ∃ row ∈ store.links, (row.id == link.id) = true := by simpa using stored
    obtain ⟨front, old, back, rows, isOld, before, replaced⟩ :=
      exists_replaceFirst_eq (fun _ => writtenRow link change now) present
    rw [written]
    refine ⟨rfl, front, old, back, rows, ?_, ?_⟩
    · exact row?_eq_some rows (by simpa using isOld) (by simpa using before)
    · rw [codes, replaced, List.map_append, List.map_cons]
      rfl

/-- A new state that is stored leaves all codes as they were exactly if it has the code of the row
that it takes the place of. It leaves them distinct exactly if no other row has its code. The
statement to a database does not write the code and does not depend on it. -/
theorem update_keeps_codes_iff (distinct : store.codes.Nodup) (link : Link) (change : Change)
    (now : Moment) :
    let saved := store.update link change now
    (saved.2.codes = store.codes ↔
        (saved.1.result = .ok () → ∃ row, store.row? link.id = some row ∧ row.code = link.code)) ∧
      (saved.2.codes.Nodup ↔
        (saved.1.result = .ok () →
          ∀ row ∈ store.links, row.code = link.code → store.row? link.id = some row)) ∧
      ∀ audit, "code".toList ∉ (Postgres.LinkTable.updateStatement link audit).assigned ∧
        ∀ code, Postgres.LinkTable.updateStatement { link with code := code } audit =
          Postgres.LinkTable.updateStatement link audit := by
  intro saved
  have unassigned (audit : Audit) :
      "code".toList ∉ (Postgres.LinkTable.updateStatement link audit).assigned := by
    rw [Postgres.LinkTable.assigned_updateStatement]
    decide
  rw [← and_assoc]
  refine ⟨?_, fun audit =>
    ⟨unassigned audit, Postgres.LinkTable.updateStatement_code link audit⟩⟩
  rcases codes_update_cases store link change now with
    ⟨refused, same⟩ | ⟨stored, front, old, back, rows, isOld, codes⟩
  · have kept : saved.2.codes.Nodup := same ▸ distinct
    exact ⟨iff_of_true same fun stored => absurd stored refused,
      iff_of_true kept fun stored => absurd stored refused⟩
  · have was : store.codes = front.map Link.code ++ old.code :: back.map Link.code := by
      rw [Store.codes, rows, List.map_append, List.map_cons]
    constructor
    · rw [codes, was, List.append_cancel_left_eq, List.cons.injEq, eq_self, and_true, isOld]
      simp [saved, stored, eq_comm]
    · rw [Store.codes, rows] at distinct
      rw [codes, nodup_replaced_iff distinct, rows, isOld]
      simp [saved, stored, eq_comm]

open Time in
/-- Of two URLs the second gets another address, and both keep their codes. -/
theorem update_keeps_codes_iff_of_address :
    let now : Moment := ⟨⟨2026, 1, 2, by decide, by decide, by decide⟩, 3, 4, 5, 6,
      by decide, by decide, by decide, by decide⟩
    let first := Link.restore ⟨1⟩ "https://example.com" "a" "https://short.ly/a" (.begun now)
    let second := Link.restore ⟨2⟩ "https://example.org" "b" "https://short.ly/b" (.begun now)
    let store : Store := { links := [first, second] }
    let saved := store.update { second with longUrl := "https://example.net" } .modified now
    store.codes.Nodup ∧ saved.1.result = .ok () ∧ saved.2.codes = store.codes := by
  intro now first second store saved
  have distinct : store.codes.Nodup := by decide
  have keeps := (update_keeps_codes_iff distinct
    { second with longUrl := "https://example.net" } .modified now).1
  exact ⟨distinct, rfl, keeps.mpr fun _ => ⟨second, by decide, rfl⟩⟩

open Time in
/-- Of two URLs the second is stored with the code of the first, which both have then. -/
theorem update_gives_taken_code :
    let now : Moment := ⟨⟨2026, 1, 2, by decide, by decide, by decide⟩, 3, 4, 5, 6,
      by decide, by decide, by decide, by decide⟩
    let first := Link.restore ⟨1⟩ "https://example.com" "a" "https://short.ly/a" (.begun now)
    let second := Link.restore ⟨2⟩ "https://example.org" "b" "https://short.ly/b" (.begun now)
    let store : Store := { links := [first, second] }
    let saved := store.update { second with code := "a" } .modified now
    store.codes = ["a", "b"] ∧ saved.1.result = .ok () ∧ saved.2.codes = ["a", "a"] := by
  intro now first second store saved
  exact ⟨by decide, rfl, by decide⟩

end Store

end Shortlink
