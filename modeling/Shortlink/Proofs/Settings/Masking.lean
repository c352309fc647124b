import Shortlink.Proofs.Text.Search
import Shortlink.Settings.Masking

/-!
# What is left of a masked password

The three searches of the mask end at the same places whatever the password is, so nothing of it
is left. The scheme and the tail may hold any characters, as long as the scheme does not hold its
own mark.
-/

namespace Shortlink.Settings

open Text

variable {scheme user tail : List Char}

/-- What the mask makes of an address with a password. -/
theorem maskChars_credentials (noMark : ¬schemeMark <:+: scheme) {between host : List Char}
    (found : splitAtLast? '@' ('@' :: tail) = some (between, host)) (user password : List Char) :
    maskChars (scheme ++ (schemeMark ++ (user ++ ':' :: (password ++ '@' :: tail)))) =
      scheme ++ schemeMark ++ user.takeWhile (· != ':') ++ ':' :: (stars ++ '@' :: host) := by
  have isMark : splitAtWord? schemeMark
      (scheme ++ (schemeMark ++ (user ++ ':' :: (password ++ '@' :: tail)))) =
        some (scheme, user ++ ':' :: (password ++ '@' :: tail)) :=
    splitAtWord?_append (by decide) noMark _
  have isHost : splitAtLast? '@' (user ++ ':' :: (password ++ '@' :: tail)) =
      some (user ++ ':' :: (password ++ between), host) := by
    have split := splitAtLast?_append found (user ++ ':' :: password)
    simpa only [List.append_assoc, List.cons_append] using split
  obtain ⟨rest, isUser⟩ := splitAtFirst?_append ':' user (password ++ between)
  simp only [maskChars, isMark, isHost, isUser]

/-- The mask shows the same for every password. -/
theorem maskChars_password (noMark : ¬schemeMark <:+: scheme)
    (user password other tail : List Char) :
    maskChars (scheme ++ (schemeMark ++ (user ++ ':' :: (password ++ '@' :: tail)))) =
      maskChars (scheme ++ (schemeMark ++ (user ++ ':' :: (other ++ '@' :: tail)))) := by
  obtain ⟨between, host, found⟩ := splitAtLast?_cons '@' tail
  rw [maskChars_credentials noMark found, maskChars_credentials noMark found]

/-- With a plain user and a plain host, only the password is replaced. -/
theorem maskChars_plain (noMark : ¬schemeMark <:+: scheme) (plainUser : ':' ∉ user)
    (plainTail : '@' ∉ tail) (password : List Char) :
    maskChars (scheme ++ (schemeMark ++ (user ++ ':' :: (password ++ '@' :: tail)))) =
      scheme ++ schemeMark ++ user ++ ':' :: (stars ++ '@' :: tail) := by
  have found : splitAtLast? '@' ('@' :: tail) = some ([], tail) := by
    simp [splitAtLast?, splitAtLast?_eq_none plainTail]
  rw [maskChars_credentials noMark found, takeWhile_of_not_mem plainUser]

/-- What is masked stays as it is. -/
theorem maskChars_maskChars (url : List Char) : maskChars (maskChars url) = maskChars url := by
  cases isMark : splitAtWord? schemeMark url with
  | none => simp only [maskChars, isMark]
  | some parts =>
      obtain ⟨scheme, rest⟩ := parts
      cases isHost : splitAtLast? '@' rest with
      | none => simp only [maskChars, isMark, isHost]
      | some parts =>
          obtain ⟨credentials, host⟩ := parts
          cases isUser : splitAtFirst? ':' credentials with
          | none => simp only [maskChars, isMark, isHost, isUser]
          | some parts =>
              obtain ⟨user, password⟩ := parts
              have masked : maskChars url =
                  scheme ++ schemeMark ++ user ++ ':' :: (stars ++ '@' :: host) := by
                simp only [maskChars, isMark, isHost, isUser]
              have noMark := (splitAtWord?_eq_some isMark).2
              have plainUser := (splitAtFirst?_eq_some isUser).2
              have plainHost := (splitAtLast?_eq_some isHost).2
              rw [masked]
              simpa only [List.append_assoc] using maskChars_plain noMark plainUser plainHost stars

/-! ## Strings -/

/-- The text of an address with credentials. -/
theorem toList_credentials (scheme user password tail : String) :
    (scheme ++ "://" ++ user ++ ":" ++ password ++ "@" ++ tail).toList =
      scheme.toList ++
        (schemeMark ++ (user.toList ++ ':' :: (password.toList ++ '@' :: tail.toList))) := by
  simp [schemeMark]

theorem mask_password {scheme : String} (noMark : ¬"://".toList <:+: scheme.toList)
    (user password other tail : String) :
    mask (scheme ++ "://" ++ user ++ ":" ++ password ++ "@" ++ tail) =
      mask (scheme ++ "://" ++ user ++ ":" ++ other ++ "@" ++ tail) := by
  rw [mask, mask, toList_credentials, toList_credentials]
  exact congrArg String.ofList (maskChars_password noMark _ _ _ _)

theorem mask_plain {scheme user tail : String} (noMark : ¬"://".toList <:+: scheme.toList)
    (plainUser : ':' ∉ user.toList) (plainTail : '@' ∉ tail.toList) (password : String) :
    mask (scheme ++ "://" ++ user ++ ":" ++ password ++ "@" ++ tail) =
      scheme ++ "://" ++ user ++ ":***@" ++ tail := by
  rw [mask, toList_credentials, maskChars_plain noMark plainUser plainTail,
    ← String.toList_inj]
  simp [schemeMark, stars]

theorem mask_mask (url : String) : mask (mask url) = mask url := by
  rw [mask, mask, String.toList_ofList, maskChars_maskChars]

/-- A scheme without a colon does not hold its own mark. -/
theorem not_isInfix_of_not_mem (noColon : ':' ∉ scheme) : ¬schemeMark <:+: scheme := by
  intro within
  exact noColon (within.subset (by decide))

end Shortlink.Settings
