import Shading.Proofs.Order
import Shading.Proofs.Sessions

/-!
# Schedules of scripted documents

The documents of every script can be planned, so what is known of plans holds of them: a schedule writes outputs before
they are read back, and declares nodes before they are used exactly if no output depends on itself.
-/

namespace Shading.Script

/-- A document of a session is a sound one. -/
theorem Session.Sound.document {strict : Prop} {ledger : Ledger} {session : Session}
    (sound : session.Sound strict ledger) {name : String} {document : Document}
    (held : session.documents.get? name = some document) : document.Sound strict ledger :=
  sound.documents _ (Table.mem_of_get? held)

theorem coherent_of_script {script : List Command} {name : String} {document : Document}
    (held : (Session.start.after script).documents.get? name = some document) : document.plan.Coherent := by
  obtain ⟨ledger, sound⟩ := Session.sound_after none script
  exact (sound.document held).coherent

/-- The schedule of any document of any script is refused only for a reason that the document gives: a source that the
stage must not read, an output that is never written, or an output that depends on itself. Otherwise it writes every
output before it is read back, and it declares every node before it is used if and only if no output depends on
itself. -/
theorem schedule_nodesFirst_iff_acyclic (script : List Command) (name : String) (document : Document)
    (held : (Session.start.after script).documents.get? name = some document) :
    (∀ cause, document.schedule = .error cause → document.plan.Unschedulable cause) ∧
      ∀ statements, document.schedule = .ok statements →
        OutputsFirst statements ∧ (NodesFirst statements ↔ document.Acyclic) := by
  have coherent := coherent_of_script held
  constructor
  · intro cause failed
    rcases Plan.schedule_cases coherent with ⟨_, done, _⟩ | ⟨_, same, reason⟩
    · exact nomatch failed.symm.trans done
    · cases failed.symm.trans same
      exact reason
  · intro statements done
    have scheduled := Plan.scheduled_of_ok coherent done
    exact ⟨scheduled.outputsFirst, scheduled.nodesFirst_iff coherent⟩

/-- The output `b` is read back by a node that is then written both to the position and to `b` itself. -/
def sharedCycle : List Command :=
  [⟨.vertexInput "v" .color 0, some "c"⟩, ⟨.setOutput "v" "b" "c", none⟩, ⟨.readOutput "v" "b", some "read"⟩,
    ⟨.arithmetic .add (.register "read") (.register "read"), some "sum"⟩, ⟨.setPosition "v" "sum", none⟩,
    ⟨.setOutput "v" "b" "sum", none⟩]

def sharedCycle.read : Value := .mk 1 .vec4 (.leaf (.output (.named "b")))

def sharedCycle.sum : Value := .mk 3 .vec4 (.arithmetic 2 .add read read)

/-- The vertex document that the script leaves. -/
def sharedCycle.document : Document := .vertex ⟨.empty, some sum, none, ⟨[("b", sum)]⟩⟩

open sharedCycle in
/-- The walk begins with the position, enters the node, turns to `b`, and finds the node entered there: the statements
come out with `b` written from a node that is declared only after it. -/
theorem schedule_sharedCycle :
    (Session.start.after sharedCycle).documents.get? "v" = some document ∧
      document.schedule = .ok [.assign (.named "b") sum, .declare sum, .assign .position sum] ∧
      ¬ NodesFirst [.assign (.named "b") sum, .declare sum, .assign .position sum] := by
  have held : (Session.start.after sharedCycle).documents.get? "v" = some document := by rfl
  have done : document.schedule = .ok [.assign (.named "b") sum, .declare sum, .assign .position sum] := by cbv
  have cycle : document.DependsOn (.named "b") (.named "b") := by
    refine .single ⟨sum, read, ?_, Value.reaches_of_operand List.mem_cons_self read.reaches_refl, rfl⟩
    exact List.mem_cons_of_mem _ List.mem_cons_self
  refine ⟨held, done, fun nodes => ?_⟩
  have order := (schedule_nodesFirst_iff_acyclic sharedCycle "v" document held).2 _ done
  exact order.2.1 nodes _ cycle

end Shading.Script
