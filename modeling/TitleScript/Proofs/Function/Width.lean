import TitleScript.Proofs.Function
import TitleScript.Proofs.Text.Cluster

/-!
# Texts filled up to a width

A text is filled up with one character as often as its length falls short of the width. Lengths
count user-perceived characters, and what is put behind the text are single ones, so the width is
reached if each of them is perceived as a character of its own: the first one behind the text, and
every other one behind the one before it. An accent is not, nor is a space behind a character that
belongs to the next one.

## Main results

* `pad_reaches_width` — when a text that is filled up reaches the width
-/

namespace TitleScript

open Text

/-- **When a text that is filled up reaches the width.** As long as it is not cut, it begins with
the text, is no shorter than that and no longer than asked for. It has the width, or the length of
the text if that is greater, exactly if nothing is missing, or the character that it is filled with
counts behind the text and, if more than one is missing, behind itself. -/
theorem pad_reaches_width {f : Function} (hbody : f.body = .builtin .pad) (ctx : Context)
    (args : List Outcome) (hfits : (f.run ctx args).text.utf8ByteSize ≤ 65536) :
    let text := argumentText args 0
    let width := min (readInteger (argumentText args 1)).toNat 4096
    let fill := String.singleton ((argumentText args 2).toList.headD ' ')
    let result := (f.apply ctx args).text
    (∃ added, result = text ++ added)
      ∧ Text.length text ≤ Text.length result
      ∧ Text.length result ≤ max width (Text.length text)
      ∧ (Text.length result = max width (Text.length text)
        ↔ width ≤ Text.length text
          ∨ Text.length (text ++ fill) = Text.length text + 1
            ∧ (width = Text.length text + 1 ∨ Text.length (fill ++ fill) = 2)) := by
  intro text width fill result
  have hresult : result = text ++ String.ofList (List.replicate (width - Text.length text)
      ((argumentText args 2).toList.headD ' ')) := by
    have huncut : result = (f.run ctx args).text := (f.text_apply ctx args).trans (cut_of_le hfits)
    rw [huncut, f.run_of_body ctx args hbody]
    rfl
  have hle := length_append_le text (String.ofList (List.replicate (width - Text.length text)
    ((argumentText args 2).toList.headD ' ')))
  rw [← hresult, String.length_ofList, List.length_replicate] at hle
  refine ⟨⟨_, hresult⟩, hle.1, by omega, ?_⟩
  have hmissing : max width (Text.length text) = Text.length text + (width - Text.length text) := by
    omega
  have hnone : width - Text.length text = 0 ↔ width ≤ Text.length text := by omega
  have hone : width - Text.length text = 1 ↔ width = Text.length text + 1 := by omega
  rw [hmissing, hresult, length_append_replicate_iff, hnone, hone]

/-- A letter with an accent that is filled up with dots, and a letter that is filled up with
accents. -/
theorem pad_reaches_width_dots :
    let ctx : Context := ⟨fun _ => .missing, .empty, {}⟩
    let f := Function.ofBuiltin .pad
    let args := [.literal "e\u0301", .literal "3", .literal ".,"]
    let accents := [.literal "e", .literal "3", .literal "\u0301"]
    f.body = .builtin .pad ∧ (f.run ctx args).text.utf8ByteSize ≤ 65536
      ∧ (f.run ctx accents).text.utf8ByteSize ≤ 65536
      ∧ Text.length (f.apply ctx args).text = 3 ∧ Text.length (f.apply ctx accents).text ≠ 3 := by
  intro ctx f args accents
  have hfits : (f.run ctx args).text.utf8ByteSize ≤ 65536 := by decide +kernel
  have hfits' : (f.run ctx accents).text.utf8ByteSize ≤ 65536 := by decide +kernel
  obtain ⟨-, -, -, hreached⟩ := pad_reaches_width (f := f) rfl ctx args hfits
  obtain ⟨-, -, -, hmissed⟩ := pad_reaches_width (f := f) rfl ctx accents hfits'
  have hwidth : max (min (readInteger "3").toNat 4096) (Text.length "e\u0301") = 3 := by
    decide +kernel
  have hwidth' : max (min (readInteger "3").toNat 4096) (Text.length "e") = 3 := by decide +kernel
  refine ⟨rfl, hfits, hfits', (hreached.2 (by decide +kernel)).trans hwidth, fun h => ?_⟩
  exact absurd (hmissed.1 (h.trans hwidth'.symm)) (by decide +kernel)

/-- Two accents behind a letter are perceived as one character with it. -/
theorem pad_short_of_width :
    let ctx : Context := ⟨fun _ => .missing, .empty, {}⟩
    let f := Function.ofBuiltin .pad
    let args := [.literal "e", .literal "3", .literal "\u0301"]
    (f.run ctx args).text.utf8ByteSize ≤ 65536
      ∧ Text.length (f.apply ctx args).text = 1
      ∧ max (min (readInteger (argumentText args 1)).toNat 4096) (Text.length "e") = 3 := by
  decide +kernel

end TitleScript
