import Shortlink.Link.View
import Shortlink.Proofs.Link.Event

/-!
# Cached values are read back

What a codec writes into the cache it reads back from it, so a value that comes out of the
cache is one that went in.
-/

namespace Shortlink

open Json

namespace Cache.Codec

variable {α : Type}

/-- What the codec writes it reads back. -/
def Faithful (codec : Codec α) : Prop :=
  ∀ value text, codec.encode? value = some text → codec.decode? text = some value

theorem faithful_of_reads {codec : Codec α}
    (reads : ∀ value, Reads (codec.read Reader.maxDepth) (print (codec.toJson value)) value) :
    codec.Faithful := by
  intro value text written
  cases storable : codec.isStorable with
  | false => simp [encode?, storable] at written
  | true =>
      rw [encode?, if_pos storable] at written
      have spelled : text.toList = print (codec.toJson value) := by
        rw [← Option.some.inj written, compact, String.toList_ofList]
      rw [decode?, spelled, readAll_of_reads (reads value)]

theorem faithful_string : string.Faithful := by
  apply faithful_of_reads
  intro value
  change Reads (Reader.textOf Reader.plainText) (print (.text value)) value
  rw [print]
  exact Reader.reads_textOf (plainText_parse value)

end Cache.Codec

namespace LinkView

theorem reads_toJson (view : LinkView) (depth : Nat) :
    Reads (record.read (depth + 2)) (print view.toJson) view := by
  have fills : Record.Fills record.toRecord.fields (depth + 1)
      [("code", .text view.code), ("original_url", .text view.longUrl),
        ("short_url", .text view.shortUrl), ("created_on_utc", view.created.toJson)] {}
      ⟨some view.code, some view.longUrl, some view.shortUrl, some view.created⟩ := by
    refine ⟨_, _, rfl, rfl, Record.reads_textField (plainText_parse view.code) _ _ _ _, ?_⟩
    refine ⟨_, _, rfl, rfl, Record.reads_textField (plainText_parse view.longUrl) _ _ _ _, ?_⟩
    refine ⟨_, _, rfl, rfl, Record.reads_textField (plainText_parse view.shortUrl) _ _ _ _, ?_⟩
    refine ⟨_, _, rfl, rfl,
      Record.reads_textField (Time.Stamp.form_parse_toString view.created) _ _ _ _, ?_⟩
    rfl
  exact Record.reads_of_fills fills rfl

theorem faithful_list : codec.list.Faithful := by
  apply Cache.Codec.faithful_of_reads
  intro views
  apply reads_listOf
  · intro view member
    exact startsItem_object _
  · intro view member
    exact reads_toJson view 125

end LinkView

end Shortlink
