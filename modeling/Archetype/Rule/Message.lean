import Archetype.Rule.Problem

/-!
# Messages

A message is a template whose fields are filled from data. A kind without a template for a variant
falls back to its plain template, and without that to its name.

* `template?`         the template of a kind and a variant;
* `renderMessage`     the message, or the first field that the data lack;
* `Problem.message`   the message of a problem, which lacks nothing (`renderMessage_problem`).
-/

namespace Archetype

/-- a piece of a message -/
inductive Piece where
  | text (s : String)
  | field (f : Field)
  deriving DecidableEq, Repr

/-- the templates, by kind and variant -/
def template? : Kind → Variant → Option (List Piece)
  | .selfReference, .dependency => some
    [.text "Component \"", .field .component,
      .text "\" cannot depend on itself. Remove it from dependencies."]
  | .selfReference, .conflict => some
    [.text "Component \"", .field .component,
      .text "\" cannot conflict with itself. Remove it from conflicts."]
  | .contradiction, .plain => some
    [.text "Component \"", .field .component, .text "\" both depends on and conflicts with \"",
      .field .target, .text "\". A component cannot require and forbid the same component."]
  | .duplicateEntry, .dependency => some
    [.text "\"", .field .target,
      .text "\" appears multiple times in dependencies array. Remove the duplicate."]
  | .duplicateEntry, .conflict => some
    [.text "\"", .field .target,
      .text "\" appears multiple times in conflicts array. Remove the duplicate."]
  | .duplicateEntry, .all => some
    [.text "Component \"", .field .component,
      .text "\" appears multiple times in \"all\" array. Remove the duplicate."]
  | .duplicateEntry, .none => some
    [.text "Component \"", .field .component,
      .text "\" appears multiple times in \"none\" array. Remove the duplicate."]
  | .duplicateEntry, .tags => some
    [.text "Tag \"", .field .tag,
      .text "\" appears multiple times in \"tags\" array. Remove the duplicate."]
  | .duplicateEntry, .withoutTags => some
    [.text "Tag \"", .field .tag,
      .text "\" appears multiple times in \"without_tags\" array. Remove the duplicate."]
  | .cycle, .plain => some
    [.text "Circular dependency detected: ", .field .cycle,
      .text ". This will cause validation to fail."]
  | .missingDependency, .entity => some
    [.text "Component \"", .field .component, .text "\" requires \"", .field .dependency,
      .text "\" to be added first. Add ", .field .dependency, .text " before ", .field .component,
      .text "."]
  | .missingDependency, .template => some
    [.text "Template \"", .field .template, .text "\": Component \"", .field .component,
      .text "\" requires \"", .field .dependency,
      .text "\" to appear earlier in the components array."]
  | .conflictingComponent, .entity => some
    [.text "Component \"", .field .component, .text "\" conflicts with \"", .field .conflict,
      .text "\" which was already added to this entity."]
  | .conflictingComponent, .template => some
    [.text "Template \"", .field .template, .text "\": Component \"", .field .component,
      .text "\" conflicts with \"", .field .conflict,
      .text "\". These components cannot be in the same template."]
  | .unsatisfiableQuery, .allNone => some
    [.text "Component \"", .field .component,
      .text "\" is in both \"all\" and \"none\". This query will never match any entities."]
  | .unsatisfiableQuery, .tags => some
    [.text "Tag \"", .field .tag, .text
      "\" is in both \"tags\" and \"without_tags\". This query will never match any entities."]
  | .unsatisfiableQuery, .conflictingPair => some
    [.text "Components \"", .field .first, .text "\" and \"", .field .second, .text
      "\" conflict with each other. Having both in \"all\" means no entities can match this query."]
  | _, _ => none

/-- the value of a field -/
def Data.get? (data : Data) (f : Field) : Option String := data.lookup f

/-- fills a template; if fields are missing, the first of them is the error -/
def fill (data : Data) : List Piece → Except Field String
  | [] => .ok ""
  | .text s :: rest => (fill data rest).map (s ++ ·)
  | .field f :: rest =>
    match Data.get? data f with
    | none => .error f
    | some s => (fill data rest).map (s ++ ·)

/-- the message of a kind and a variant -/
def renderMessage (kind : Kind) (variant : Variant) (data : Data) : Except Field String :=
  match (template? kind variant).or (template? kind .plain) with
  | none => .ok kind.name
  | some pieces => fill data pieces

/-- the data of a problem fill the template of its message -/
theorem renderMessage_problem (p : Problem) :
    ∃ s, renderMessage p.kind p.variant p.data = .ok s := by
  rcases p with ⟨side, _⟩ | ⟨_, _⟩ | ⟨side, _⟩ | _ | ⟨c, _, _⟩ | ⟨c, _, _⟩ | _ | _ | ⟨_, _⟩ |
    ⟨list, _⟩
  · cases side <;> exact ⟨_, rfl⟩
  · exact ⟨_, rfl⟩
  · cases side <;> exact ⟨_, rfl⟩
  · exact ⟨_, rfl⟩
  · cases c <;> exact ⟨_, rfl⟩
  · cases c <;> exact ⟨_, rfl⟩
  · exact ⟨_, rfl⟩
  · exact ⟨_, rfl⟩
  · exact ⟨_, rfl⟩
  · cases list <;> exact ⟨_, rfl⟩

/-- the message of a problem -/
def Problem.message (p : Problem) : String :=
  match h : renderMessage p.kind p.variant p.data with
  | .ok s => s
  | .error _ => absurd (renderMessage_problem p) (by simp [h])

end Archetype
