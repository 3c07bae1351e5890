import SqlLineage.Decode.Text
import SqlLineage.Proofs.Json.Reading

/-!
# Decoding texts that spell a value

Decoding a text comes to decoding the value it spells, as long as that does not nest too deep.
-/

namespace SqlLineage.Decode

open Json (Spells depthLimit)

variable {α : Type} {decoder : Decoder α} {text : String} {value : Json} {result : α}

theorem ofText_eq_ok (hspells : Spells text.toList (.value value) [])
    (hdepth : value.depth ≤ depthLimit) (hdecode : decoder .streamed value = .ok result) :
    ofText decoder text = .ok result := by
  rcases Json.readDocument_of_spells hspells with ⟨-, hfault, hvalue, hexcess⟩ | ⟨hdeep, -⟩
  · rw [ofText]
    simp only [hvalue, hdecode, hfault, hexcess]
  · exact absurd hdeep (Nat.not_lt_of_le hdepth)

theorem ofWholeText_eq_ok (hspells : Spells text.toList (.value value) [])
    (hregular : value.Regular) (hdepth : value.depth ≤ depthLimit)
    (hdecode : decoder .direct value = .ok result) : ofWholeText decoder text = .ok result := by
  rcases Json.readDocument_of_spells hspells with ⟨-, hfault, hvalue, hexcess⟩ | ⟨hdeep, -⟩
  · rw [ofWholeText]
    simp only [hvalue, hregular.withoutRepeats_eq, hdecode, hfault, hexcess]
  · exact absurd hdeep (Nat.not_lt_of_le hdepth)

/-- A text that nests too deep is not decoded at all. -/
theorem ofWholeText_eq_error (decoder : Decoder α) (hspells : Spells text.toList (.value value) [])
    (hdeep : depthLimit < value.depth) :
    ∃ offset, ofWholeText decoder text =
      .error ("recursion limit exceeded" ++ Json.describeOffset text offset) := by
  rcases Json.readDocument_of_spells hspells with ⟨hdepth, -, -, -⟩ | ⟨-, offset, hfault⟩
  · exact absurd hdeep (Nat.not_lt_of_le hdepth)
  · refine ⟨offset, ?_⟩
    rw [ofWholeText]
    simp only [hfault]
    rfl

/-- A text is decoded exactly if it is the document of a value that is decoded. -/
theorem ofWholeText_eq_ok_iff :
    ofWholeText decoder text = .ok result ↔
      ∃ value, Json.parse text = .ok value ∧ decoder .direct value.withoutRepeats = .ok result := by
  rw [ofWholeText, Json.parse]
  cases (Json.readDocument text).root.fault? with
  | some fault => simp
  | none =>
    cases (Json.readDocument text).excess with
    | some fault => cases decoder .direct (Json.readDocument text).root.value.withoutRepeats <;> simp
    | none =>
      cases hdecode : decoder .direct (Json.readDocument text).root.value.withoutRepeats <;>
        simp [hdecode]

end SqlLineage.Decode
