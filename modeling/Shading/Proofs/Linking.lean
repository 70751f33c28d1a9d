import Shading.Link
import Shading.Proofs.Rendering
import Shading.Proofs.Sessions

/-!
# Attributes that a vertex stage reads

Two stages fit together only if no attribute is bound twice, and every attribute that the vertex stage depends on is
bound (`bound_of_checkLink`). The walk that looks for the attributes remembers the keys of the values that it has met. A
key stands for one value, so a value is passed over only if it was met before, and in the end the values met are closed
under operands (`exists_closed`).
-/

namespace Shading

section

variable {Built : Value → Prop}

/-- The values that a walk has met and those that wait are contained in a set that is closed under operands. It has the
sources of the values met before and those that the walk is still to find. -/
theorem exists_closed (operands : ∀ value, Built value → ∀ operand ∈ value.source.operands, Built operand)
    (sameKey : ∀ first second, Built first → Built second → first.key = second.key → first = second)
    (waiting : List Value) (seen : NumberSet) (met : List Value)
    (metSeen : ∀ key, seen.contains key = true ↔ ∃ value ∈ met, value.key = key)
    (frontier : ∀ value ∈ met, ∀ operand ∈ value.source.operands, operand ∈ met ∨ operand ∈ waiting)
    (metBuilt : ∀ value ∈ met, Built value) (waitingBuilt : ∀ value ∈ waiting, Built value) :
    ∃ closed : List Value, (∀ value ∈ met ++ waiting, value ∈ closed) ∧
      (∀ value ∈ closed, ∀ operand ∈ value.source.operands, operand ∈ closed) ∧
      ∀ value ∈ closed, value ∈ met ∨ value.source ∈ reachableFrom waiting seen := by
  fun_induction reachableFrom waiting seen generalizing met with
  | case1 seen =>
    refine ⟨met, by simp, fun value member operand read => ?_, fun value member => .inl member⟩
    exact (frontier value member operand read).resolve_right List.not_mem_nil
  | case2 seen value rest known ih =>
    -- A value with the same key was met, and that is the value itself.
    obtain ⟨earlier, member, same⟩ := (metSeen _).1 known
    obtain rfl := sameKey _ _ (metBuilt earlier member) (waitingBuilt value List.mem_cons_self) same
    have narrowed : ∀ other ∈ met, ∀ operand ∈ other.source.operands, operand ∈ met ∨ operand ∈ rest := by
      intro other listed operand read
      rcases frontier other listed operand read with old | waits
      · exact .inl old
      · rcases List.mem_cons.1 waits with rfl | later
        · exact .inl member
        · exact .inr later
    obtain ⟨closed, contained, closure, found⟩ := ih met metSeen narrowed metBuilt
      (fun other waits => waitingBuilt other (List.mem_cons_of_mem _ waits))
    refine ⟨closed, fun other listed => contained other ?_, closure, found⟩
    simp only [List.mem_append, List.mem_cons] at listed ⊢
    rcases listed with old | rfl | later
    · exact .inl old
    · exact .inl member
    · exact .inr later
  | case3 seen value rest unknown ih =>
    have built := waitingBuilt value List.mem_cons_self
    have remembered : ∀ key, (seen.insert value.key).contains key = true ↔ ∃ other ∈ value :: met, other.key = key := by
      intro key
      rw [NumberSet.contains_insert, metSeen]
      simp
    have widened : ∀ other ∈ value :: met, ∀ operand ∈ other.source.operands,
        operand ∈ value :: met ∨ operand ∈ value.source.operands ++ rest := by
      intro other listed operand read
      rcases List.mem_cons.1 listed with rfl | old
      · exact .inr (List.mem_append_left _ read)
      · rcases frontier other old operand read with older | waits
        · exact .inl (List.mem_cons_of_mem _ older)
        · rcases List.mem_cons.1 waits with rfl | later
          · exact .inl List.mem_cons_self
          · exact .inr (List.mem_append_right _ later)
    obtain ⟨closed, contained, closure, found⟩ := ih (value :: met) remembered widened
      (List.forall_mem_cons.2 ⟨built, metBuilt⟩)
      (fun other waits => (List.mem_append.1 waits).elim (operands value built other)
        (fun later => waitingBuilt other (List.mem_cons_of_mem _ later)))
    refine ⟨closed, fun other listed => contained other ?_, closure, fun other member => ?_⟩
    · simp only [List.mem_append, List.mem_cons] at listed ⊢
      rcases listed with old | rfl | later
      · exact .inl (.inr old)
      · exact .inl (.inl rfl)
      · exact .inr (.inr later)
    · rcases found other member with listed | later
      · rcases List.mem_cons.1 listed with rfl | old
        · exact .inr List.mem_cons_self
        · exact .inl old
      · exact .inr (List.mem_cons_of_mem _ later)

private theorem Document.mem_reachable {document : Document}
    (operands : ∀ value, Built value → ∀ operand ∈ value.source.operands, Built operand)
    (sameKey : ∀ first second, Built first → Built second → first.key = second.key → first = second)
    (written : ∀ write ∈ document.writes, Built write.2) {value : Value} (reached : document.Reached value) :
    value.source ∈ document.reachable := by
  have waiting : ∀ value ∈ document.writes.map Prod.snd, Built value := by
    intro value member
    obtain ⟨write, listed, rfl⟩ := List.mem_map.1 member
    exact written write listed
  obtain ⟨closed, contained, closure, found⟩ := exists_closed operands sameKey (document.writes.map Prod.snd) ∅ []
    (by simp) (by simp) (by simp) waiting
  obtain ⟨target, member, below⟩ := reached
  have entered : value ∈ closed := by
    induction below with
    | refl => exact contained _ (List.mem_map.2 ⟨target, member, rfl⟩)
    | tail _ read ih => exact closure _ ih _ read
  exact (found value entered).resolve_left List.not_mem_nil

end

private theorem History.Regular.mem_reachable {manner : Manner} {history : History} (regular : history.Regular manner)
    {name : String} {document : Document} (held : history.documents.get? name = some document) {value : Value}
    (reached : document.Reached value) : value.source ∈ document.reachable :=
  Document.mem_reachable history.operands regular.sameKey (Document.within_of_get? held).writes reached

theorem checkInputs_eq_ok_iff {outputs inputs : List (String × ShaderType)} :
    checkInputs outputs inputs = .ok () ↔ ∀ entry ∈ inputs, outputs.lookup entry.1 = some entry.2 := by
  induction inputs with
  | nil => simp [checkInputs]
  | cons first rest ih =>
    obtain ⟨name, expected⟩ := first
    rw [checkInputs, List.forall_mem_cons, ← ih]
    cases outputs.lookup name with
    | none => simp
    | some actual =>
      by_cases same : actual = expected
      · simp [same]
      · simp [same]

theorem nodup_of_checkBindings {bound attributes : List Attribute} (checked : checkBindings bound attributes = .ok ()) :
    attributes.Nodup ∧ ∀ binding ∈ attributes, binding ∉ bound := by
  induction attributes generalizing bound with
  | nil => exact ⟨List.nodup_nil, fun _ member => nomatch member⟩
  | cons first rest ih =>
    rw [checkBindings] at checked
    split at checked
    · exact nomatch checked
    · rename_i free
      obtain ⟨distinct, later⟩ := ih checked
      have absent : first ∉ rest := fun member => later first member List.mem_cons_self
      refine ⟨List.nodup_cons.2 ⟨absent, distinct⟩, List.forall_mem_cons.2 ⟨?_, fun binding member listed => ?_⟩⟩
      · simpa using free
      · exact later binding member (List.mem_cons_of_mem _ listed)

private theorem bound_of_checkReads {bound : List Attribute} {sources : List Source}
    (checked : checkReads bound sources = .ok ()) {slot : Slot} {stream : Int}
    (member : .leaf (.vertexAttribute slot stream) ∈ sources) : ⟨slot, stream⟩ ∈ bound := by
  induction sources with
  | nil => exact nomatch member
  | cons first rest ih =>
    rw [checkReads] at checked
    rcases List.mem_cons.1 member with rfl | later
    · dsimp only [Source.vertexAttribute?] at checked
      split at checked
      · rename_i listed
        exact List.contains_iff_mem.1 listed
      · exact nomatch checked
    · split at checked
      · exact ih checked later
      · split at checked
        · exact ih checked later
        · exact nomatch checked

/-- The attributes that two stages are linked with are distinct, and those that the vertex stage depends on are among
them. -/
theorem bound_of_checkLink {manner : Manner} {history : History} (regular : history.Regular manner) {name : String}
    {vertex : VertexShader} {fragment : FragmentShader} {attributes : List Attribute}
    (held : history.documents.get? name = some (.vertex vertex))
    (linked : checkLink vertex fragment attributes = .ok ()) :
    attributes.Nodup ∧ ∀ value slot stream, (Document.vertex vertex).Reached value →
      value.source = .leaf (.vertexAttribute slot stream) → ⟨slot, stream⟩ ∈ attributes := by
  unfold checkLink at linked
  obtain ⟨_, _, linked⟩ := Glsl.bind_eq_ok linked
  obtain ⟨_, bindings, reads⟩ := Glsl.bind_eq_ok linked
  refine ⟨(nodup_of_checkBindings bindings).1, fun value slot stream reached origin => ?_⟩
  have found := regular.mem_reachable held reached
  rw [origin] at found
  exact bound_of_checkReads reads found

end Shading
