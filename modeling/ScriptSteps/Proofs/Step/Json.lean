import Mathlib
import ScriptSteps.Proofs.Json.Reads
import ScriptSteps.Report

/-!
# Models as JSON are read back

The JSON text of a model is an array with an object for each step, and every object has the same
five members in the same order. Reading it gives the model again, so different models have different
texts.

## Main definitions

* `Step.json`, `Model.json`: the JSON values of a step and of a model

## Main statements

* `Model.reads_toJson`: the text of a model stands for the model's value
* `Model.ofJson?_toJson`: a model is read back from its text
-/

namespace ScriptSteps

/-! ## Values of steps and models -/

/-- The JSON value of a step. -/
def Step.json (s : Step) : Json :=
  .object [(some "Line", .natural s.line), (some "Type", .string (some s.kind.name)),
    (some "Name", .string (some s.name)), (some "Condition", .string (some s.condition)),
    (some "Value", .string (some s.value))]

/-- The JSON value of a model. -/
def Model.json (m : Model) : Json := .array (m.map Step.json)

/-- The steps whose lines have at most 32 bits. -/
def Step.LineFits (s : Step) : Prop := s.line < UInt32.size

instance : DecidablePred Step.LineFits := fun s =>
  inferInstanceAs (Decidable (s.line < UInt32.size))

/-! ## Writing -/

theorem Step.reads_toJson (s : Step) : Json.Reads s.toJson s.json := by
  refine Json.reads_writeObject ?_
  refine .cons ⟨rfl, Json.reads_toString s.line⟩ ?_
  refine .cons ⟨rfl, Json.reads_quote s.kind.name⟩ ?_
  refine .cons ⟨rfl, Json.reads_quote s.name⟩ ?_
  refine .cons ⟨rfl, Json.reads_quote s.condition⟩ ?_
  exact .cons ⟨rfl, Json.reads_quote s.value⟩ .nil

/-- The text of a model is read as an array with the values of its steps. -/
theorem Model.reads_toJson (m : Model) : Json.Reads m.toJson m.json := by
  refine Json.reads_writeArray ?_
  exact List.forall₂_map_left_iff.2 (List.forall₂_map_right_iff.2
    (List.forall₂_same.2 fun s _ => s.reads_toJson))

/-! ## Reading -/

theorem Json.step?_json {s : Step} (h : s.LineFits) : Json.step? s.json = some s := by
  have hline : (Json.natural s.line).line? = some s.line := if_pos h
  have hkind : (Json.string (some s.kind.name)).stepKind? = some s.kind :=
    StepKind.ofName?_name s.kind
  have hmembers : Json.step? s.json = Json.stepOf? (.natural s.line)
      (.string (some s.kind.name)) (.string (some s.name)) (.string (some s.condition))
      (.string (some s.value)) := by
    simp [Step.json, step?, member?]
  rw [hmembers, stepOf?, hline, hkind]
  rfl

theorem Json.mapM_step?_json {m : Model} (h : ∀ s ∈ m, s.LineFits) :
    (m.map Step.json).mapM Json.step? = some m := by
  induction m with
  | nil => rfl
  | cons s m ih =>
    rw [List.forall_mem_cons] at h
    rw [List.map_cons, List.mapM_cons, step?_json h.1, ih h.2]
    rfl

theorem Model.ofJson?_of_lineFits {m : Model} (h : ∀ s ∈ m, s.LineFits) :
    Model.ofJson? m.toJson = some m := by
  rw [ofJson?, m.reads_toJson.parse?]
  exact Json.mapM_step?_json h

/-- The text of a model is an array with an object for each step, from which the model is read back
if its lines have at most 32 bits. Written again, that gives the same text, and no other such model
has it. -/
theorem Model.ofJson?_toJson (m : Model) (h : ∀ s ∈ m, s.LineFits) :
    (∀ color, (Printer.mk .json color).model m = m.toJson)
      ∧ Json.parse? m.toJson = some (.array (m.map Step.json))
      ∧ Model.ofJson? m.toJson = some m
      ∧ (Model.ofJson? m.toJson).map Model.toJson = some m.toJson
      ∧ ∀ m' : Model, (∀ s ∈ m', s.LineFits) → m'.toJson = m.toJson → m' = m := by
  have hread := ofJson?_of_lineFits h
  refine ⟨fun _ => rfl, m.reads_toJson.parse?, hread, by rw [hread]; rfl, fun m' h' heq => ?_⟩
  rw [← heq, ofJson?_of_lineFits h'] at hread
  exact Option.some.inj hread

/-- A quote, a backslash, a control character, a line separator, a character beyond 16 bits, and the
greatest line. -/
theorem Model.ofJson?_toJson_escapes :
    let m : Model := [⟨4294967295, .elseStatement, "\"\\", "\x01\n", "\u2028😀"⟩]
    (∀ s ∈ m, s.LineFits)
      ∧ m.toJson = "[\x7b\"Line\":4294967295,\"Type\":\"ElseStatement\",\"Name\":\"\\\"\\\\\","
        ++ "\"Condition\":\"\\u0001\\n\",\"Value\":\"\u2028😀\"\x7d]"
      ∧ Model.ofJson? m.toJson = some m := by
  intro m
  have hfits : ∀ s ∈ m, s.LineFits := by decide
  refine ⟨hfits, by decide +kernel, (ofJson?_toJson m hfits).2.2.1⟩

end ScriptSteps
