import Shading.Proofs.Uniforms

/-!
# Uniforms of other documents

A uniform is told from others by its index and its type, and each document numbers its own from zero. So a document that
reads a uniform of another one is refused exactly if it has no uniform of that index and type itself; if it has one, the
reference is taken for its own uniform (`foreign_uniform_refused_iff`).
-/

namespace Shading

open Glsl

/-- The document has a uniform of its own with the index and the type. -/
def Document.Covers (document : Document) (index : Nat) (type : ShaderType) : Prop :=
  ∃ own, document.resources.uniforms.entries[index]? = some own ∧ own.2.type = type

section

variable {strict : Prop} {ledger : Ledger} {document : Document} {index : Nat} {type : ShaderType}

/-- A uniform that a document may read has the index and the type of one of its own, whoever declared it. -/
theorem Document.Sound.exists_uniform (sound : document.Sound strict ledger) {index : Int}
    (legal : Leaf.Legal document (.uniform index type)) :
    ∃ (number : Nat) (own : String × Value),
      document.resources.uniforms.entries[number]? = some own ∧ index = number ∧ own.2.type = type := by
  have listed : ∃ entry ∈ document.resources.uniforms.entries, entry.2.source = .leaf (.uniform index type) := by
    cases document <;> exact legal
  obtain ⟨own, entered, origin⟩ := listed
  obtain ⟨number, found, _⟩ := sound.resources.exists_index entered
  rw [sound.resources.numbered found] at origin
  simp only [Source.leaf.injEq, Leaf.uniform.injEq] at origin
  exact ⟨number, own, found, origin.1.symm, origin.2⟩

private theorem Document.Sound.legal_uniform_iff (sound : document.Sound strict ledger) :
    Leaf.Legal document (.uniform index type) ↔ document.Covers index type := by
  constructor
  · intro legal
    obtain ⟨number, own, found, same, rfl⟩ := sound.exists_uniform legal
    obtain rfl := Int.natCast_inj.1 same
    exact ⟨own, found, rfl⟩
  · rintro ⟨own, found, rfl⟩
    have listed : ∃ entry ∈ document.resources.uniforms.entries,
        entry.2.source = .leaf (.uniform index own.2.type) :=
      ⟨own, List.mem_of_getElem? found, sound.resources.numbered found⟩
    cases document <;> exact listed

private theorem Document.schedule_fails_of_illegal (coherent : document.plan.Coherent) {value : Value} {leaf : Leaf}
    (reached : document.Reached value) (origin : value.source = .leaf leaf) (illegal : ¬ leaf.Legal document) :
    ∃ cause, document.schedule = .error cause := by
  rcases Plan.schedule_cases coherent with ⟨statements, _, scheduled⟩ | ⟨cause, failed, _⟩
  · have passed := scheduled.legal reached
    rw [origin, Document.checkSource_leaf] at passed
    exact absurd passed illegal
  · exact ⟨cause, failed⟩

end

namespace Script

/-- Two documents of a session that fit together with some attributes. -/
structure Session.Fits (session : Session) (vertex : VertexShader) (fragment : FragmentShader)
    (attributes : List Attribute) : Prop where
  vertexHeld : ∃ name, session.documents.get? name = some (.vertex vertex)
  fragmentHeld : ∃ name, session.documents.get? name = some (.fragment fragment)
  linked : checkLink vertex fragment attributes = .ok ()

theorem Session.Fits.refused {session : Session} {ledger : Ledger} {vertex : VertexShader}
    {fragment : FragmentShader} {attributes : List Attribute} (fits : session.Fits vertex fragment attributes)
    (sound : session.Sound True ledger) {generator : Generator} (ternary : generator.branching = .ternary)
    {document : Document} (part : document = .vertex vertex ∨ document = .fragment fragment)
    (fails : ¬ document.Renderable) :
    ∃ error, (generator.generate vertex fragment attributes).result = .error error ∧
      ProgramRefusal generator.levels vertex fragment attributes error := by
  obtain ⟨_, vertexHeld⟩ := fits.vertexHeld
  obtain ⟨_, fragmentHeld⟩ := fits.fragmentHeld
  have decided := generator.okIff_generate ternary (sound.document vertexHeld) (sound.document fragmentHeld) fits.linked
  cases result : (generator.generate vertex fragment attributes).result with
  | ok sources =>
    have renderable := decided.exists_ok_iff.1 ⟨sources, result⟩
    rcases part with rfl | rfl
    · exact absurd renderable.1.2 fails
    · exact absurd renderable.2.2 fails
  | error error => exact ⟨error, rfl, decided.stops_of_error result⟩

/-- A uniform that a document declares at some time of a script of builders, and that a document reads in the end. The
reading document passes the check if and only if it has a uniform of its own with the same index and type. Then its
source names the uniform by the variable that stands for its own one. Otherwise its schedule fails, and so does every
program that it is a part of, with a violation unless the digits of a number or the values inside each other are too
many. -/
theorem foreign_uniform_refused_iff (before after : List Command) (owner reader asked : String)
    (declarer document : Document) (index : Nat) (value : Value)
    (builders : ∀ command ∈ before ++ after, command.step.isBuilder = true)
    (owned : (Session.start.after before).documents.get? owner = some declarer)
    (declared : declarer.resources.uniforms.entries[index]? = some (asked, value))
    (held : (Session.start.after (before ++ after)).documents.get? reader = some document)
    (reached : document.Reached value) :
    (document.plan.checkSource value.source = .ok () ↔ document.Covers index value.type) ∧
      (document.Covers index value.type → ∀ temporaries : Temporaries,
        temporaries.reference value = .ok (.ofName (uniformName index)) ∧
          ∃ name, document.resources.StandsFor (uniformName index) name) ∧
      (¬ document.Covers index value.type → (∃ cause, document.schedule = .error cause) ∧
        ∀ vertex fragment attributes (generator : Generator),
          (Session.start.after (before ++ after)).Fits vertex fragment attributes → generator.branching = .ternary →
          (document = .vertex vertex ∨ document = .fragment fragment) →
          ∃ error, (generator.generate vertex fragment attributes).result = .error error ∧
            ProgramRefusal generator.levels vertex fragment attributes error) := by
  obtain ⟨early, earlySound⟩ := Session.sound_after none before
  obtain ⟨ledger, sound⟩ := Session.typed_after none builders
  have origin : value.source = .leaf (.uniform index value.type) :=
    (earlySound.document owned).resources.numbered declared
  have documentSound := sound.document held
  have legal : Leaf.Legal document (.uniform index value.type) ↔ document.Covers index value.type :=
    documentSound.legal_uniform_iff
  refine ⟨?_, ?_, ?_⟩
  · rw [origin, Document.checkSource_leaf, legal]
  · rintro ⟨own, found, _⟩ temporaries
    refine ⟨?_, own.1, documentSound.resources.standsFor_iff.2 ⟨own.2, found⟩⟩
    have plain : ∀ parent letters, value.source ≠ .component parent letters := by simp [origin]
    rw [Temporaries.reference_of_leaf (Value.root_of_leaf origin), selectors_of_plain plain]
    rfl
  · intro uncovered
    have illegal : ¬ Leaf.Legal document (.uniform index value.type) := fun passes => uncovered (legal.1 passes)
    refine ⟨Document.schedule_fails_of_illegal documentSound.coherent reached origin illegal, ?_⟩
    intro vertex fragment attributes generator fits ternary part
    exact fits.refused sound ternary part (fun renderable => illegal (renderable.legal _ ⟨value, reached, origin⟩))

/-- The vertex stage declares `tint`. -/
def borrowed.declares : List Command :=
  [⟨.uniform "v" "tint" (some "Vec4") none, some "tint"⟩]

/-- The fragment stage declares `glow`, and writes `tint` to its color. -/
def borrowed.reads : List Command :=
  [⟨.uniform "f" "glow" (some "Vec4") none, none⟩, ⟨.setColor "f" "tint", none⟩]

def borrowed.tint : Value := .mk 0 .vec4 (.leaf (.uniform 0 .vec4))

/-- The vertex stage, once it has declared `tint`. -/
def borrowed.vertex : VertexShader :=
  { VertexShader.empty with resources.uniforms := ⟨[("tint", tint)]⟩ }

/-- The fragment stage in the end. -/
def borrowed.fragment : FragmentShader where
  resources := ⟨⟨[("glow", .mk 1 .vec4 (.leaf (.uniform 0 .vec4)))]⟩, []⟩
  inputs := .empty
  color := some tint

open borrowed in
/-- The fragment stage is scheduled, and in its source `tint` goes by the variable that stands for `glow`. -/
theorem borrowed_uniform_scheduled :
    (Document.fragment fragment).schedule = .ok [.assign .color tint] ∧
      (Document.fragment fragment).plan.checkSource tint.source = .ok () ∧
      (∀ temporaries : Temporaries, temporaries.reference tint = .ok (.ofName "u0")) ∧
      fragment.resources.StandsFor "u0" "glow" := by
  have reached : (Document.fragment fragment).Reached tint :=
    ⟨(.color, tint), List.mem_cons_self, tint.reaches_refl⟩
  have covers : (Document.fragment fragment).Covers 0 .vec4 := ⟨_, rfl, rfl⟩
  have taken := foreign_uniform_refused_iff declares reads "v" "f" "tint" (.vertex vertex) (.fragment fragment) 0 tint
    (by decide) (by rfl) rfl (by rfl) reached
  exact ⟨by cbv, taken.1.2 covers, fun temporaries => (taken.2.1 covers temporaries).1, _, _, rfl, rfl, rfl⟩

end Script

end Shading
