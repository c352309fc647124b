/-!
# Reading back

Readers take values off the front of a text. What they read back is said with whatever
follows, so that what is proved of the parts holds of the whole.
-/

namespace Shortlink

variable {ε α β : Type}

/-- From every text that begins with `text`, a reader takes just that, and gives `value`. -/
def Reads (reader : StateT (List Char) (Except ε) α) (text : List Char) (value : α) : Prop :=
  ∀ rest, reader (text ++ rest) = .ok (value, rest)

variable {reader : StateT (List Char) (Except ε) α} {text more : List Char} {value : α}

/-- The run of a sequence whose first part is known. -/
theorem bind_eq_of_ok {next : α → StateT (List Char) (Except ε) β} {before after : List Char}
    (first : reader before = .ok (value, after)) :
    (reader >>= next) before = next value after := by
  change StateT.bind reader next before = next value after
  rw [StateT.bind, first]
  rfl

theorem Reads.map {f : α → β} (reads : Reads reader text value) :
    Reads (f <$> reader) text (f value) := by
  intro rest
  change StateT.map f reader (text ++ rest) = .ok (f value, rest)
  rw [StateT.map, reads rest]
  rfl

end Shortlink
