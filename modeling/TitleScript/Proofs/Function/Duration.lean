import Mathlib.Data.List.Forall2
import TitleScript.Proofs.Function
import TitleScript.Proofs.Text.Padded

/-!
# Durations as text

A duration is written as fields that are parted by colons, each of them worth sixty times the one
behind it. There are two of them below one hour and three from there on, and both forms are read in
the same way, so a text shows no more than one number of seconds.

## Main definitions

* `Text.TwoDigits` — a number below sixty in two digits
* `Text.ShowsSeconds` — the text of a duration
* `Text.readFields` — the number of seconds that a text shows

## Main results

* `Text.ShowsSeconds.readFields_eq` — what is shown can be read
* `Number.showsSeconds_writeDuration` — durations are written in this form
* `duration_determines_seconds` — durations are written alike only if they have the same seconds
-/

namespace TitleScript

open Text

namespace Text

/-! ### The form of a duration -/

/-- A number below sixty in two digits. -/
structure TwoDigits (n : Nat) (field : String) : Prop where
  length_eq : field.length = 2
  digits : DigitsOf n field.toList
  lt : n < 60

/-- The text shows `t` seconds: minutes and seconds below one hour, and hours before them from one
hour up. The first field has no zeros before it, and the others have two digits. -/
inductive ShowsSeconds (t : Nat) : String → Prop
  | short {m s : Nat} {ss : String} (hshort : t < 3600) (hs : TwoDigits s ss)
    (ht : m * 60 + s = t) : ShowsSeconds t (writeNat m ++ ":" ++ ss)
  | long {h m s : Nat} {mm ss : String} (hlong : 3600 ≤ t) (hm : TwoDigits m mm)
    (hs : TwoDigits s ss) (ht : h * 3600 + m * 60 + s = t) :
    ShowsSeconds t (writeNat h ++ ":" ++ mm ++ ":" ++ ss)

theorem twoDigits_writeTwoDigits {n : Nat} (h : n < 60) : TwoDigits n (writeTwoDigits n) := by
  have hdigits : (writeTwoDigits n).toList = paddedDigits 2 n :=
    toList_writePadded (Int.natCast_nonneg n) 2
  have hlength : (decimal n).length ≤ 2 := by
    rw [decimal, Nat.length_toDigits_le_iff (by decide) (by decide)]
    omega
  refine ⟨?_, ?_, h⟩
  · rw [← String.length_toList, hdigits, length_paddedDigits, Nat.max_eq_left hlength]
  · rw [hdigits]
    exact digitsOf_paddedDigits 2 n

/-! ### Reading a duration -/

/-- The number that the fields of a text are the digits of, to the base sixty. -/
def readFields (text : String) : Nat :=
  (text.toList.splitOn ':').foldl (fun t field => 60 * t + Nat.ofDigitChars 10 field 0) 0

/-- Fields of digits hold no colon. -/
theorem colon_not_mem {fields : List (List Char)} {numbers : List Nat}
    (h : List.Forall₂ DigitsOf numbers fields) : ∀ field ∈ fields, ':' ∉ field := by
  induction h with
  | nil => exact List.forall_mem_nil _
  | cons hn _ ih =>
    refine List.forall_mem_cons.2 ⟨fun hmem => ?_, ih⟩
    exact absurd (hn.isDigit ':' hmem) (by decide)

theorem foldl_fields {fields : List (List Char)} {numbers : List Nat}
    (h : List.Forall₂ DigitsOf numbers fields) (t : Nat) :
    fields.foldl (fun t field => 60 * t + Nat.ofDigitChars 10 field 0) t
      = numbers.foldl (fun t n => 60 * t + n) t := by
  induction h generalizing t with
  | nil => rfl
  | cons hn _ ih => rw [List.foldl_cons, List.foldl_cons, hn.value_eq, ih]

/-- Numbers that are parted by colons are the fields of the text. -/
theorem readFields_of_toList {text : String} {fields : List (List Char)} {numbers : List Nat}
    (htext : text.toList = [':'].intercalate fields) (hne : fields ≠ [])
    (h : List.Forall₂ DigitsOf numbers fields) :
    readFields text = numbers.foldl (fun t n => 60 * t + n) 0 := by
  rw [readFields, htext, List.splitOn_intercalate ':' (colon_not_mem h) hne, foldl_fields h]

/-- **What is shown can be read.** -/
theorem ShowsSeconds.readFields_eq {t : Nat} {text : String} (h : ShowsSeconds t text) :
    readFields text = t := by
  cases h with
  | @short m s ss _ hs ht =>
    have htext : (writeNat m ++ ":" ++ ss).toList = [':'].intercalate [decimal m, ss.toList] := by
      simp [writeNat]
    have hnumbers : List.Forall₂ DigitsOf [m, s] [decimal m, ss.toList] :=
      .cons (digitsOf_decimal m) (.cons hs.digits .nil)
    rw [readFields_of_toList htext (List.cons_ne_nil _ _) hnumbers, List.foldl_cons,
      List.foldl_cons, List.foldl_nil]
    omega
  | @long h m s mm ss _ hm hs ht =>
    have htext : (writeNat h ++ ":" ++ mm ++ ":" ++ ss).toList
        = [':'].intercalate [decimal h, mm.toList, ss.toList] := by
      simp [writeNat]
    have hnumbers : List.Forall₂ DigitsOf [h, m, s] [decimal h, mm.toList, ss.toList] :=
      .cons (digitsOf_decimal h) (.cons hm.digits (.cons hs.digits .nil))
    rw [readFields_of_toList htext (List.cons_ne_nil _ _) hnumbers, List.foldl_cons,
      List.foldl_cons, List.foldl_cons, List.foldl_nil]
    omega

/-- The duration of a number of 64 bits is not long. -/
theorem ShowsSeconds.length_le {t : Nat} {text : String} (h : ShowsSeconds t text)
    (ht : (t : Int) ≤ greatest) : text.length ≤ 25 := by
  have hfirst {n : Nat} (hn : n ≤ t) : (writeNat n).length ≤ 19 := by
    rw [writeNat, String.length_ofList]
    exact length_decimal_le (by omega)
  have hcolon : ":".length = 1 := rfl
  cases h with
  | @short m s ss _ hs hm =>
    have hm : (writeNat m).length ≤ 19 := hfirst (by omega)
    rw [String.length_append, String.length_append, hs.length_eq]
    omega
  | @long h m s mm ss _ hm hs hh =>
    have hh : (writeNat h).length ≤ 19 := hfirst (by omega)
    rw [String.length_append, String.length_append, String.length_append, String.length_append,
      hm.length_eq, hs.length_eq]
    omega

end Text

/-! ### Durations that functions yield -/

theorem Number.showsSeconds_writeDuration (t : Nat) : ShowsSeconds t (writeDuration t) := by
  have hseconds : TwoDigits (t % 60) (writeTwoDigits (t % 60)) :=
    twoDigits_writeTwoDigits (Nat.mod_lt t (by decide))
  have hminutes : TwoDigits (t / 60 % 60) (writeTwoDigits (t / 60 % 60)) :=
    twoDigits_writeTwoDigits (Nat.mod_lt (t / 60) (by decide))
  rw [writeDuration]
  split
  · next hshort => exact .short hshort hseconds (by omega)
  · next hlong => exact .long (Nat.le_of_not_lt hlong) hminutes hseconds (by omega)

/-- A duration is not cut. -/
theorem text_apply_duration {f : Function} (hbody : f.body = .builtin .duration) (ctx : Context)
    (args : List Outcome) :
    (f.apply ctx args).text = Number.writeDuration ((argumentNumber args 0).toNat / 1000) := by
  have hnumber : argumentNumber args 0 ≤ greatest := (isReadable_readInteger _).2
  have hpos : 0 ≤ greatest := by decide
  have hlength :=
    (Number.showsSeconds_writeDuration ((argumentNumber args 0).toNat / 1000)).length_le (by omega)
  rw [f.text_apply, f.run_of_body ctx args hbody]
  exact cut_of_length_le (Nat.le_trans (Nat.mul_le_mul_left 4 hlength) (by decide))

/-- **A duration in its written form determines its seconds.** The milliseconds, or zero for less
than zero, are rounded down to seconds, and the text shows these; so two durations are written alike
exactly if they have the same seconds. -/
theorem duration_determines_seconds {f : Function} (hbody : f.body = .builtin .duration)
    (ctx : Context) :
    let seconds (args : List Outcome) := (max 0 (readInteger (argumentText args 0)) / 1000).toNat
    let result (args : List Outcome) := (f.apply ctx args).text
    (∀ args, ShowsSeconds (seconds args) (result args))
      ∧ ∀ args args', result args = result args' ↔ seconds args = seconds args' := by
  intro seconds result
  have hresult (args : List Outcome) : result args = Number.writeDuration (seconds args) := by
    have hseconds : (argumentNumber args 0).toNat / 1000 = seconds args := by
      show (readInteger (argumentText args 0)).toNat / 1000
        = (max 0 (readInteger (argumentText args 0)) / 1000).toNat
      omega
    rw [← hseconds]
    exact text_apply_duration hbody ctx args
  have hshows (args : List Outcome) : ShowsSeconds (seconds args) (result args) := by
    rw [hresult]
    exact Number.showsSeconds_writeDuration (seconds args)
  refine ⟨hshows, fun args args' => ⟨fun h => ?_, fun h => ?_⟩⟩
  · rw [← (hshows args).readFields_eq, h, (hshows args').readFields_eq]
  · rw [hresult, hresult, h]

/-- Both sides of one hour, and two durations below one second. -/
theorem duration_determines_seconds_hour :
    let ctx : Context := ⟨fun _ => .missing, .empty, {}⟩
    let f := Function.ofBuiltin .duration
    let result (milliseconds : String) := (f.apply ctx [.literal milliseconds]).text
    f.body = .builtin .duration
      ∧ ShowsSeconds 3599 (result "3599999") ∧ ShowsSeconds 3600 (result "3600000")
      ∧ result "3599999" ≠ result "3600000" ∧ result "-5" = result " 999ms" := by
  intro ctx f result
  obtain ⟨hshows, hsame⟩ := duration_determines_seconds (f := f) rfl ctx
  have hshort : (max 0 (readInteger "3599999") / 1000).toNat = 3599 := by decide +kernel
  have hlong : (max 0 (readInteger "3600000") / 1000).toNat = 3600 := by decide +kernel
  refine ⟨rfl, hshort ▸ hshows [.literal "3599999"], hlong ▸ hshows [.literal "3600000"],
    fun h => ?_, ?_⟩
  · have hseconds := (hsame [.literal "3599999"] [.literal "3600000"]).1 h
    exact absurd hseconds (by decide +kernel)
  · exact (hsame [.literal "-5"] [.literal " 999ms"]).2 (by decide +kernel)

end TitleScript
