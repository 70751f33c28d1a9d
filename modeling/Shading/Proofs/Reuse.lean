import Shading.Proofs.Effects
import Shading.Proofs.Sources

/-!
# Using a generator again

What a generator keeps between its calls, and what a failure leaves behind, has no effect on the sources it generates
later: after any script it generates what a new generator of its version does, and each of the two sources depends on its
own stage only (`generate_after`). A step changes the generators of its session in one of two ways, or not at all
(`Step.Changes`); neither changes the version of a generator.
-/

namespace Shading

namespace Generator

/-- Two generators are of the same version: they differ at most in what they keep. -/
structure SameVersion (first second : Generator) : Prop where
  dialect : first.dialect = second.dialect
  branching : first.branching = second.branching
  levels : first.levels = second.levels

variable {first second : Generator}

theorem SameVersion.renew (same : first.SameVersion second) (stage : Option Stage) :
    first.renew stage = second.renew stage := by
  rw [Generator.renew, Generator.renew, same.dialect, same.branching, same.levels]

/-- Both stages start with new temporaries, so that only the version of a generator matters. -/
theorem SameVersion.result_generate (same : first.SameVersion second) (vertex : VertexShader)
    (fragment : FragmentShader) (attributes : List Attribute) :
    (first.generate vertex fragment attributes).result = (second.generate vertex fragment attributes).result := by
  rw [Generator.result_generate, Generator.result_generate, same.renew, same.renew]

end Generator

namespace Script

/-- The name that the step gives to a new generator. -/
def Step.createsGenerator? : Step → Option String
  | .newGenerator name _ => some name
  | _ => none

/-- What a step can make of the generators of its session: the temporaries of one may change, and it may create one. -/
inductive Step.Changes (step : Step) (generators : Table Generator) : Table Generator → Prop where
  | nothing : Changes step generators generators
  | temporaries {name : String} {generator : Generator} (held : generators.get? name = some generator)
      (left : Glsl.Temporaries) : Changes step generators (generators.insert name { generator with temporaries := left })
  | created {name : String} (asked : step.createsGenerator? = some name) (generator : Generator) :
      Changes step generators (generators.insert name generator)

open Run

namespace Run

variable {α β : Type} {name : String} {generator : Generator}

/-- A run that has found a generator leaves it with some temporaries, and the other generators as they are. -/
def Uses (name : String) (generator : Generator) (run : Run α) : Prop :=
  ∀ session : Session, session.generators.get? name = some generator →
    ∃ left : Glsl.Temporaries,
      (final run session).generators = session.generators.insert name { generator with temporaries := left }

theorem Leaves.uses {run : Run α} (leaves : Leaves Session.generators run) : Uses name generator run := by
  intro session held
  refine ⟨generator.temporaries, ?_⟩
  rw [leaves session, Table.insert_same held]

theorem Leaves.then {run : Run α} {continued : α → Run β} (leaves : Leaves Session.generators run)
    (next : ∀ value, Uses name generator (continued value)) : Uses name generator (run >>= continued) := by
  intro session held
  have same := leaves session
  rw [final_bind]
  split
  · rw [← same]
    exact next _ _ (by rw [same, held])
  · exact leaves.uses session held

theorem Uses.bind {run : Run α} {continued : α → Run β} (uses : Uses name generator run)
    (next : ∀ value, Leaves Session.generators (continued value)) : Uses name generator (run >>= continued) := by
  intro session held
  rw [final_bind]
  split
  · rw [next]
    exact uses session held
  · exact uses session held

private theorem uses_putGenerator (left : Glsl.Temporaries) :
    Uses name generator (putGenerator name { generator with temporaries := left }) :=
  fun _ _ => ⟨left, rfl⟩

private theorem uses_call (outcome : Outcome α) : Uses name generator (call name generator outcome) :=
  (uses_putGenerator outcome.temporaries).bind (fun _ => by simp)

private theorem run_generator (name : String) (session : Session) :
    (Run.generator name).run.run session = match session.generators.get? name with
      | some generator => (.ok generator, session)
      | none => (.error (.malformed (.noGenerator name)), session) := by
  have opened : (Run.generator name).run.run session =
      (found (session.generators.get? name) (.noGenerator name)).run.run session := rfl
  rw [opened]
  cases session.generators.get? name <;> rfl

end Run

private theorem changes_of_uses {α : Type} {name : String} {continued : Generator → Run α}
    (uses : ∀ generator, Uses name generator (continued generator)) (step : Step) (session : Session) :
    step.Changes session.generators (final (Run.generator name >>= continued) session).generators := by
  rw [final_bind, final, run_generator]
  cases held : session.generators.get? name with
  | none => exact .nothing
  | some generator =>
    obtain ⟨left, same⟩ := uses generator session held
    dsimp only
    rw [same]
    exact .temporaries held left

private theorem Step.changes_perform (step : Step) (session : Session) :
    step.Changes session.generators (final step.perform session).generators := by
  cases called : step.generator? with
  | none =>
    rw [Step.leaves_generators called session]
    exact .nothing
  | some name =>
    cases step with
    | newGenerator name choice =>
      have chosen : (final choice.resolve session).generators = session.generators := choice.leaves_resolve session
      unfold Step.perform
      rw [final_bind]
      split
      · rename_i generator _
        have created : (final (do putGenerator name generator; return Reply.dialect generator.dialect)
            (final choice.resolve session)).generators = (final choice.resolve session).generators.insert name generator := rfl
        rw [created, chosen]
        exact .created rfl generator
      · rw [chosen]
        exact .nothing
    | nameTemporary name value =>
      refine changes_of_uses (fun generator => (leaves_register value).then (fun value => ?_)) _ session
      exact (leaves_check _).then (fun named => (uses_putGenerator named.2).bind (fun _ => by simp))
    | declaration name value =>
      refine changes_of_uses (fun generator => (leaves_register value).then (fun value => ?_)) _ session
      exact (leaves_lift _).then (fun declared => (uses_putGenerator declared.2).bind (fun _ => by simp))
    | renew name stage =>
      refine changes_of_uses (fun generator => Leaves.then (by simp) (fun stage => ?_)) _ session
      exact (uses_putGenerator (.start stage)).bind (fun _ => by simp)
    | generate name program | vertexSource name program | fragmentSource name program =>
      refine changes_of_uses (fun generator => program.leaves_resolve.then (fun resolved => ?_)) _ session
      exact (uses_call _).bind (fun _ => by simp)
    | body name document =>
      refine changes_of_uses (fun generator => (leaves_document document).then (fun document => ?_)) _ session
      exact (uses_call _).bind (fun _ => by simp)
    | _ => cases called

private theorem Step.Changes.sameVersion {step : Step} {generators next : Table Generator} {name : String}
    {given : Generator} (changes : step.Changes generators next) (kept : step.createsGenerator? ≠ some name)
    (held : generators.get? name = some given) : ∃ used, next.get? name = some used ∧ used.SameVersion given := by
  cases changes with
  | nothing => exact ⟨given, held, rfl, rfl, rfl⟩
  | @temporaries other generator found left =>
    rw [Table.get?_insert]
    by_cases same : name = other
    · subst same
      rw [held] at found
      cases found
      exact ⟨_, if_pos rfl, rfl, rfl, rfl⟩
    · exact ⟨given, by rw [if_neg same, held], rfl, rfl, rfl⟩
  | @created other asked generator =>
    have differs : name ≠ other := fun same => kept (same ▸ asked)
    exact ⟨given, by rw [Table.get?_insert, if_neg differs, held], rfl, rfl, rfl⟩

private theorem Session.changes_perform (session : Session) (command : Command) :
    command.step.Changes session.generators (session.perform command).session.generators := by
  rw [Session.part_perform Session.generators]
  exact command.step.changes_perform { session with log := [] }

private theorem Session.sameVersion_after {session : Session} {history : List Command} {name : String}
    {given : Generator} (held : session.generators.get? name = some given)
    (kept : ∀ command ∈ history, command.step.createsGenerator? ≠ some name) :
    ∃ used, (session.after history).generators.get? name = some used ∧ used.SameVersion given := by
  induction history generalizing session given with
  | nil => exact ⟨given, held, rfl, rfl, rfl⟩
  | cons command rest ih =>
    obtain ⟨middle, heldMiddle, same⟩ := (session.changes_perform command).sameVersion (kept command List.mem_cons_self) held
    obtain ⟨used, heldUsed, sameUsed⟩ := ih heldMiddle (fun other member => kept other (List.mem_cons_of_mem _ member))
    exact ⟨used, heldUsed, sameUsed.dialect.trans same.dialect, sameUsed.branching.trans same.branching,
      sameUsed.levels.trans same.levels⟩

/-- Whatever a script has done with a generator since it was created, and however its calls ended, the generator generates
what a new one of its version does. Its vertex source does not depend on the fragment stage, and its fragment source
depends neither on the vertex stage nor on the attributes. -/
theorem generate_after (session : Session) (history : List Command) (name : String) (given : Generator)
    (held : session.generators.get? name = some given)
    (kept : ∀ command ∈ history, command.step.createsGenerator? ≠ some name) :
    ∃ used, (session.after history).generators.get? name = some used ∧
      (∀ vertex fragment attributes, (used.generate vertex fragment attributes).result =
        ((given.renew none).generate vertex fragment attributes).result) ∧
      ∀ vertex fragment attributes sources, (used.generate vertex fragment attributes).result = .ok sources →
        (∀ other replaced, (used.generate vertex other attributes).result = .ok replaced →
          replaced.vertex = sources.vertex) ∧
        ∀ other bindings replaced, (used.generate other fragment bindings).result = .ok replaced →
          replaced.fragment = sources.fragment := by
  obtain ⟨used, heldUsed, same⟩ := Session.sameVersion_after held kept
  have new : used.SameVersion (given.renew none) := ⟨same.dialect, same.branching, same.levels⟩
  refine ⟨used, heldUsed, new.result_generate, ?_⟩
  intro vertex fragment attributes sources generated
  obtain ⟨_, vertexText, fragmentText⟩ := Generator.generate_eq_ok generated
  constructor
  · intro other replaced generatedAgain
    obtain ⟨_, again, _⟩ := Generator.generate_eq_ok generatedAgain
    exact Except.ok.inj (again.symm.trans vertexText)
  · intro other bindings replaced generatedAgain
    obtain ⟨_, _, again⟩ := Generator.generate_eq_ok generatedAgain
    exact Except.ok.inj (again.symm.trans fragmentText)

/-- The position is twice the color. -/
def doubled : List Command :=
  [⟨.vertexInput "v" .color 0, some "color"⟩, ⟨.arithmetic .add (.register "color") (.register "color"), some "sum"⟩,
    ⟨.setPosition "v" "sum", none⟩]

/-- The node of the position gets a temporary by a direct call, and then a generation fails since no attribute is bound. -/
def doubled.calls : List Command :=
  [⟨.nameTemporary "g" "sum", none⟩, ⟨.generate "g" ⟨"v", "f", []⟩, none⟩]

def doubled.color : Value := .mk 0 .vec4 (.leaf (.vertexAttribute .color 0))

def doubled.vertex : VertexShader where
  resources := .empty
  position := some (.mk 2 .vec4 (.arithmetic 1 .add color color))
  pointSize := none
  outputs := .empty

open doubled in
/-- The temporary is left behind, and the next generation declares the node that has it all the same. -/
theorem generate_doubled : ∃ used sources,
    (Session.start.after doubled).documents.get? "v" = some (.vertex vertex) ∧
      ((Session.start.after doubled).after calls).generators.get? "g" = some used ∧
      used.temporaries.index? 1 = some 0 ∧
      (used.generate vertex .empty [⟨.color, 0⟩]).result = .ok sources ∧
      ((Generator.ofDialect .es300).generate vertex .empty [⟨.color, 0⟩]).result = .ok sources := by
  obtain ⟨sources, generated⟩ : ∃ sources,
      ((Generator.ofDialect .es300).generate vertex .empty [⟨.color, 0⟩]).result = .ok sources :=
    exists_ok_of_toOption (by decide +kernel)
  obtain ⟨used, held, same, _⟩ := generate_after (Session.start.after doubled) calls "g" (.ofDialect .es300) (by rfl)
    (by simp [calls, Step.createsGenerator?])
  have left : (((Session.start.after doubled).after calls).generators.get? "g").map
      (fun used => used.temporaries.index? 1) = some (some 0) := by decide +kernel
  rw [held] at left
  exact ⟨used, sources, by rfl, held, Option.some.inj left, (same _ _ _).trans generated, generated⟩

end Script

end Shading
