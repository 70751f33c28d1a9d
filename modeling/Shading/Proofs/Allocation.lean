import Shading.Proofs.Stability

/-!
# Allocation of uniforms

A uniform gets the number of uniforms that were declared before it, and is never removed or replaced. So at any time the
uniforms of a document are numbered from zero in the order of their declaration, a name always stands for the uniform that
it was declared for, and a request that fails takes no number (`uniforms_allocated`).
-/

namespace Shading

section

variable {resources : Resources} {asked : String} {kind : Kind} {component : ScalarType}

private theorem Kind.exists_declaredType (suitable : kind ∈ uniformKinds) (component : ScalarType) :
    ∃ type, kind.declaredType component = .ok type := by
  cases kind with
  | mat3 | sampler | generic => exact absurd suitable (by decide)
  | _ => exact ⟨_, rfl⟩

private theorem Resources.run_uniform_same {value : Value} (known : resources.uniforms.get? asked = some value)
    (formed : resources.Formed) (same : kind.declaredType component = .ok value.type) (next : Nat) :
    (resources.uniform asked kind component).run next = .ok ((value, resources), next) := by
  have suitable : kind ∈ uniformKinds := by
    have own := ((Kind.mem_types_iff _ _).1 (Kind.declaredType_eq_ok same)).1
    rw [← own]
    exact formed.kinds _ (Table.mem_of_get? known)
  rw [Resources.uniform, if_pos suitable, same, known]
  change StateT.run (if value.type = value.type then _ else _) next = _
  rw [if_pos rfl]
  rfl

private theorem Resources.run_uniform_other {value : Value} (known : resources.uniforms.get? asked = some value)
    (other : kind.declaredType component ≠ .ok value.type) (next : Nat) :
    ∃ cause, (resources.uniform asked kind component).run next = .error (.violation cause) := by
  by_cases suitable : kind ∈ uniformKinds
  · obtain ⟨type, declared⟩ := Kind.exists_declaredType suitable component
    have differs : value.type ≠ type := by
      rintro rfl
      exact other declared
    refine ⟨.uniformRedeclared asked value.type type, ?_⟩
    rw [Resources.uniform, if_pos suitable, declared, known]
    change StateT.run (if value.type = type then _ else _) next = _
    rw [if_neg differs]
    rfl
  · refine ⟨.uniformKind kind, ?_⟩
    rw [Resources.uniform, if_neg suitable]
    rfl

private theorem Resources.run_uniform_new (absent : resources.uniforms.get? asked = none)
    (suitable : kind ∈ uniformKinds) (next : Nat) :
    ∃ value, kind.declaredType component = .ok value.type ∧
      value.source = .leaf (.uniform resources.uniforms.size value.type) ∧
      (resources.uniform asked kind component).run next =
        .ok ((value, { resources with uniforms := resources.uniforms.insert asked value }), next + 1) := by
  obtain ⟨type, declared⟩ := Kind.exists_declaredType suitable component
  refine ⟨.mk next type (.leaf (.uniform resources.uniforms.size type)), declared, rfl, ?_⟩
  have resolved : kind.resolveType (some type) = .ok type := if_pos (Kind.declaredType_eq_ok declared)
  have wrapped : ∀ source, (kind.wrap source (some type)).run next = .ok (.mk next type source, next + 1) := by
    intro source
    rw [Kind.wrap, resolved]
    rfl
  rw [Resources.uniform, if_pos suitable, declared, absent]
  change (kind.wrap (.leaf (.uniform resources.uniforms.size type)) (some type)).run next >>= (fun wrapped =>
    Except.ok ((wrapped.1, { resources with uniforms := resources.uniforms.insert asked wrapped.1 }), wrapped.2)) = _
  rw [wrapped]
  rfl

end

namespace Script

open Run

/-- What a step that requests a uniform asks for: the document, the name, the kind and the component type, each of the last
two being the usual one if none is named. -/
def Step.request? : Step → Option (String × String × Kind × ScalarType)
  | .uniform document asked kind scalar => do
    let kind ← kind.elim (some Kind.scalar) Kind.find?
    let scalar ← scalar.elim (some ScalarType.float) (Enumeration.find? ScalarType)
    return (document, asked, kind, scalar)
  | _ => none

private theorem run_document {session : Session} {name : String} {held : Document}
    (found : session.documents.get? name = some held) : (Run.document name).run.run session = (.ok held, session) := by
  change (Run.found (session.documents.get? name) (.noDocument name)).run.run session = _
  rw [found]
  rfl

private theorem run_withResources {α : Type} {session : Session} {name : String} {held : Document}
    (found : session.documents.get? name = some held) (change : Resources → Build (α × Resources)) :
    (withResources name change).run.run session =
      match (change held.resources).run session.next with
      | .error error => (.error (.error error), session)
      | .ok result => (.ok result.1.1, { session with
          next := result.2, documents := session.documents.insert name (held.withResources result.1.2) }) := by
  rw [withResources, run_bind, final, run_document found]
  dsimp only
  rw [run_bind, final, run_build]
  cases (change held.resources).run session.next <;> rfl

private theorem run_request {step : Step} {name asked : String} {kind : Kind} {component : ScalarType}
    {session : Session} {held : Document} (requests : step.request? = some (name, asked, kind, component))
    (found : session.documents.get? name = some held) :
    step.perform.run.run session =
      (do return Reply.value (← withResources name (fun resources => resources.uniform asked kind component)) :
        Run Reply).run.run session := by
  cases step with
  | uniform document called kindName scalarName =>
    rw [Step.request?] at requests
    obtain ⟨kindFound, kindNamed, requests⟩ := Option.bind_eq_some_iff.1 requests
    obtain ⟨scalarFound, scalarNamed, requests⟩ := Option.bind_eq_some_iff.1 requests
    cases requests
    have scalarRun : memberOr ScalarType.float scalarName = (pure component : Run ScalarType) := by
      cases scalarName with
      | none =>
        cases scalarNamed
        rfl
      | some scalarName =>
        change Run.found (Enumeration.find? ScalarType scalarName) _ = _
        rw [show Enumeration.find? ScalarType scalarName = some component from scalarNamed]
        rfl
    rw [Step.perform, run_bind, final, run_document found]
    cases kindName with
    | none =>
      cases kindNamed
      dsimp only
      rw [scalarRun]
      rfl
    | some kindName =>
      have kindRun : Run.kind kindName = (pure kind : Run Kind) := by
        rw [Run.kind, show Kind.find? kindName = some kind from kindNamed]
        rfl
      dsimp only
      rw [kindRun, scalarRun]
      rfl
  | _ => cases requests

section

variable {session : Session} {command : Command} {name asked : String} {kind : Kind} {component : ScalarType}
  {held : Document}

private theorem Session.result_request (requests : command.step.request? = some (name, asked, kind, component))
    (found : session.documents.get? name = some held) :
    (session.perform command).result =
      match (held.resources.uniform asked kind component).run session.next with
      | .error error => .error (.error error)
      | .ok result => .ok (.value result.1.1) := by
  have foundUnlogged : Table.get? { session with log := [] }.documents name = some held := found
  rw [Session.result_perform, run_request requests foundUnlogged, run_bind, final, run_withResources foundUnlogged]
  cases (held.resources.uniform asked kind component).run session.next <;> rfl

private theorem Session.documents_request (requests : command.step.request? = some (name, asked, kind, component))
    (found : session.documents.get? name = some held) {value : Value} {resources : Resources} {next : Nat}
    (ran : (held.resources.uniform asked kind component).run session.next = .ok ((value, resources), next)) :
    (session.perform command).session.documents.get? name = some (held.withResources resources) := by
  have foundUnlogged : Table.get? { session with log := [] }.documents name = some held := found
  rw [Session.part_perform Session.documents, final, run_request requests foundUnlogged, run_bind, final,
    run_withResources foundUnlogged, ran]
  exact (Table.get?_insert _ _ _ _).trans (if_pos rfl)

end

/-- At the end of a script, the uniforms of a document are numbered from zero in the order of their declaration, which is
also the order of their indices, and each has its type and a kind for uniforms. Those that were declared at any time since
the name of the document was last given are still there: a request for such a uniform is answered by the same value if it
asks for its type, and refused otherwise. A request for a new name takes the next number. A call on a document that fails,
in whatever session, leaves it as if the call had not been made. -/
theorem uniforms_allocated (script : List Command) (name : String) (late : Document)
    (held : (Session.start.after script).documents.get? name = some late) :
    (∀ (index : Nat) (entry : String × Value), late.resources.uniforms.entries[index]? = some entry →
        entry.2.source = .leaf (.uniform index entry.2.type) ∧ entry.2.kind ∈ uniformKinds) ∧
      late.resources.uniformsByIndex = late.resources.uniforms.values ∧
      (∀ before after early, script = before ++ after → Retains name after →
        (Session.start.after before).documents.get? name = some early →
        early.resources.uniforms.entries <+: late.resources.uniforms.entries ∧
          ∀ asked value, early.resources.uniforms.get? asked = some value →
            ∀ (command : Command) kind component, command.step.request? = some (name, asked, kind, component) →
              (kind.declaredType component = .ok value.type →
                ((Session.start.after script).perform command).result = .ok (.value value)) ∧
              (kind.declaredType component ≠ .ok value.type → ∃ cause,
                ((Session.start.after script).perform command).result = .error (.error (.violation cause)))) ∧
      (∀ (command : Command) asked kind component, command.step.request? = some (name, asked, kind, component) →
        late.resources.uniforms.get? asked = none → kind ∈ uniformKinds → ∃ value changed,
          ((Session.start.after script).perform command).result = .ok (.value value) ∧
          kind.declaredType component = .ok value.type ∧
          value.source = .leaf (.uniform late.resources.uniforms.size value.type) ∧
          ((Session.start.after script).perform command).session.documents.get? name = some changed ∧
          changed.resources.uniforms.entries = late.resources.uniforms.entries ++ [(asked, value)]) ∧
      ∀ (session : Session) (command : Command) document fault, command.step.document? = some document →
        (session.perform command).result = .error fault →
        (session.perform command).session = { session with log := [] } ∧
          ∀ rest, (session.perform command).session.performAll rest = session.performAll rest := by
  have formed : late.resources.Formed := (Session.formed_after held).resources
  refine ⟨?_, formed.uniformsByIndex_eq, ?_, ?_, ?_⟩
  · intro index entry found
    exact ⟨formed.numbered found, formed.kinds entry (List.mem_of_getElem? found)⟩
  · rintro before after early rfl retains known
    have grows := Session.grows_after retains known held
    refine ⟨grows.uniforms, fun asked value declared command kind component requests => ?_⟩
    have found : late.resources.uniforms.get? asked = some value := lookup_of_prefix grows.uniforms declared
    rw [Session.result_request requests held]
    constructor
    · intro same
      rw [Resources.run_uniform_same found formed same]
    · intro other
      obtain ⟨cause, ran⟩ := Resources.run_uniform_other found other (Session.start.after (before ++ after)).next
      exact ⟨cause, by rw [ran]⟩
  · intro command asked kind component requests absent suitable
    obtain ⟨value, declared, origin, ran⟩ := Resources.run_uniform_new absent suitable (Session.start.after script).next
    refine ⟨value, _, ?_, declared, origin, Session.documents_request requests held ran, ?_⟩
    · rw [Session.result_request requests held, ran]
    · cases late <;> exact Table.insert_new absent
  · intro session command document fault calls failed
    have same := Session.perform_of_fault calls failed
    exact ⟨same, fun rest => by rw [same, Session.performAll_unlogged]⟩

/-- Two uniforms are declared, and the first one is then requested in vain with another type. -/
def palette : List Command :=
  [⟨.uniform "v" "tint" (some "Vec4") none, none⟩, ⟨.uniform "v" "count" none (some "INT"), none⟩,
    ⟨.uniform "v" "tint" (some "Vec3") none, none⟩]

/-- The first uniform answers to its own type only, and the request in vain has taken no number. -/
theorem allocated_palette : ∃ tint fresh : Value, ∃ cause : Violation,
    ((Session.start.after palette).perform ⟨.uniform "v" "tint" (some "Vec4") none, none⟩).result = .ok (.value tint) ∧
      tint.source = .leaf (.uniform 0 .vec4) ∧
      ((Session.start.after palette).perform ⟨.uniform "v" "tint" (some "Vec3") none, none⟩).result =
        .error (.error (.violation cause)) ∧
      ((Session.start.after palette).perform ⟨.uniform "v" "view" (some "Mat4") none, none⟩).result = .ok (.value fresh) ∧
      fresh.source = .leaf (.uniform 2 .mat4) := by
  let tint : Value := .mk 0 .vec4 (.leaf (.uniform 0 .vec4))
  let count : Value := .mk 1 .int (.leaf (.uniform 1 .int))
  let early : Document := .vertex { VertexShader.empty with resources := ⟨⟨[("tint", tint)]⟩, []⟩ }
  let late : Document := .vertex { VertexShader.empty with resources := ⟨⟨[("tint", tint), ("count", count)]⟩, []⟩ }
  have held : (Session.start.after palette).documents.get? "v" = some late := by rfl
  have known : (Session.start.after (palette.take 1)).documents.get? "v" = some early := by rfl
  obtain ⟨_, _, earlier, new, _⟩ := uniforms_allocated palette "v" late held
  have answers := (earlier (palette.take 1) (palette.drop 1) early rfl (by decide) known).2 "tint" tint rfl
  obtain ⟨cause, refused⟩ := (answers ⟨.uniform "v" "tint" (some "Vec3") none, none⟩ .vec3 .float (by rfl)).2
    (by simp [Kind.declaredType, Kind.onlyType?, Kind.types, tint, Value.type])
  obtain ⟨fresh, _, replied, declared, origin, _⟩ := new ⟨.uniform "v" "view" (some "Mat4") none, none⟩ "view" .mat4 .float
    (by rfl) rfl (by decide)
  refine ⟨tint, fresh, cause, ?_, rfl, refused, replied, ?_⟩
  · exact (answers ⟨.uniform "v" "tint" (some "Vec4") none, none⟩ .vec4 .float (by rfl)).1 rfl
  · rw [origin, ← Except.ok.inj declared]
    rfl

end Script

end Shading
