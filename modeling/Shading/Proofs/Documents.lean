import Shading.Proofs.Building

/-!
# What documents hold

Moves keep documents formed: names are distinct and acceptable, and uniforms are numbered in the order in which they
were declared. They also keep a history regular: a number stands for one value or for one node. So what a document
holds is known in a ledger of the nodes, and the document is sound. What a sound document writes can be planned
(`Document.Sound.coherent`). At the end it is shown that the operations of a document are moves.
-/

namespace Shading

/-- What the numbers of nodes stand for. -/
def Ledger : Type := Nat → Option Source

/-- All nodes have numbers below the next one. -/
def Ledger.Below (ledger : Ledger) (next : Nat) : Prop :=
  ∀ {node : Nat} {source : Source}, ledger node = some source → node < next

/-- A value and all that it is computed from are well typed, where that is asked for, and entered in a ledger. -/
def Value.Known (strict : Prop) (ledger : Ledger) (value : Value) : Prop :=
  ∀ read, value.Reaches read →
    (strict → read.Typed) ∧ ∀ node, read.source.node? = some node → ledger node = some read.source

section

variable {strict : Prop} {ledger : Ledger}

theorem Value.Known.reaches {value read : Value} (known : value.Known strict ledger) (below : value.Reaches read) :
    read.Known strict ledger :=
  fun other further => known other (below.trans further)

theorem Value.Known.typed {value : Value} (known : value.Known True ledger) : value.Typed :=
  (known value value.reaches_refl).1 trivial

theorem Value.Known.entered {value : Value} (known : value.Known strict ledger) {node : Nat}
    (isNode : value.source.node? = some node) : ledger node = some value.source :=
  (known value value.reaches_refl).2 node isNode

end

/-- Uniforms have distinct names, are of kinds for uniforms and are numbered in their order. -/
structure Resources.Formed (resources : Resources) : Prop where
  named : resources.uniforms.Distinct
  numbered : ∀ {index : Nat} {entry : String × Value}, resources.uniforms.entries[index]? = some entry →
    entry.2.source = .leaf (.uniform index entry.2.type)
  kinds : ∀ entry ∈ resources.uniforms.entries, entry.2.kind ∈ uniformKinds
  fields : ∀ channel ∈ resources.channels, channel.Formed

/-- Outputs have distinct and acceptable names, and the built-in ones have their types. -/
structure VertexShader.Formed (vertex : VertexShader) : Prop where
  named : vertex.outputs.Distinct
  accepted : ∀ entry ∈ vertex.outputs.entries, isInterfaceName entry.1 = true
  position : ∀ value, vertex.position = some value → value.type = .vec4
  pointSize : ∀ value, vertex.pointSize = some value → value.type = .float

/-- Inputs have distinct and acceptable names, which are those that they read. -/
structure FragmentShader.Formed (fragment : FragmentShader) : Prop where
  named : fragment.inputs.Distinct
  accepted : ∀ entry ∈ fragment.inputs.entries, isInterfaceName entry.1 = true
  origin : ∀ entry ∈ fragment.inputs.entries, entry.2.source = .leaf (.input entry.1)
  color : ∀ value, fragment.color = some value → value.type = .vec4

/-- What the document of a stage declares and writes is formed. -/
def Document.Formed : Document → Prop
  | .vertex shader => shader.resources.Formed ∧ shader.Formed
  | .fragment shader => shader.resources.Formed ∧ shader.Formed

theorem Resources.Formed.uniformIndex_getElem {resources : Resources} (formed : resources.Formed) (index : Nat)
    (bound : index < resources.uniforms.entries.length) : resources.uniforms.entries[index].2.uniformIndex = index := by
  rw [Value.uniformIndex, formed.numbered (List.getElem?_eq_getElem bound)]

/-- Uniforms that are numbered in their order are sorted already. -/
theorem Resources.Formed.uniformsByIndex_eq {resources : Resources} (formed : resources.Formed) :
    resources.uniformsByIndex = resources.uniforms.values := by
  refine List.mergeSort_of_pairwise (List.pairwise_iff_getElem.2 ?_)
  intro first second firstBound secondBound less
  simp only [Table.values, List.length_map, List.getElem_map] at firstBound secondBound ⊢
  rw [formed.uniformIndex_getElem first firstBound, formed.uniformIndex_getElem second secondBound, decide_eq_true_iff]
  omega

private theorem Resources.formed_empty : Resources.empty.Formed where
  named := Table.distinct_empty
  numbered := fun found => by simp [Resources.empty, Table.empty] at found
  kinds := fun _ member => nomatch member
  fields := fun _ member => nomatch member

theorem Document.formed_blank (stage : Stage) : (Document.blank stage).Formed := by
  cases stage with
  | vertex =>
    refine ⟨Resources.formed_empty, Table.distinct_empty, ?_, ?_, ?_⟩
    · exact fun _ member => nomatch member
    · exact fun _ held => nomatch held
    · exact fun _ held => nomatch held
  | fragment =>
    refine ⟨Resources.formed_empty, Table.distinct_empty, ?_, ?_, ?_⟩
    · exact fun _ member => nomatch member
    · exact fun _ member => nomatch member
    · exact fun _ held => nomatch held

theorem Document.Formed.resources {document : Document} (formed : document.Formed) : document.resources.Formed := by
  cases document with
  | vertex shader => exact formed.1
  | fragment shader => exact formed.1

theorem Document.Formed.withResources {document : Document} (formed : document.Formed) {resources : Resources}
    (changed : resources.Formed) : (document.withResources resources).Formed := by
  cases document with
  | vertex shader => exact ⟨changed, formed.2.named, formed.2.accepted, formed.2.position, formed.2.pointSize⟩
  | fragment shader => exact ⟨changed, formed.2.named, formed.2.accepted, formed.2.origin, formed.2.color⟩

/-- A new uniform gets the next number. -/
theorem Resources.Formed.insert {resources : Resources} (formed : resources.Formed) {name : String} {value : Value}
    (absent : resources.uniforms.get? name = none)
    (origin : value.source = .leaf (.uniform resources.uniforms.size value.type)) (kind : value.kind ∈ uniformKinds) :
    Resources.Formed { resources with uniforms := resources.uniforms.insert name value } := by
  refine ⟨formed.named.insert name value, ?_, ?_, formed.fields⟩
  · intro index entry found
    have entries : (resources.uniforms.insert name value).entries = resources.uniforms.entries ++ [(name, value)] :=
      Table.insert_new absent
    rw [entries, List.getElem?_append] at found
    split at found
    · exact formed.numbered found
    · rename_i beyond
      rw [List.getElem?_singleton] at found
      split at found
      · rename_i last
        cases found
        rw [origin, Table.size, show index = resources.uniforms.entries.length by omega]
      · exact nomatch found
  · rintro ⟨other, held⟩ member
    rcases Table.mem_insert member with new | old
    · cases new
      exact kind
    · exact formed.kinds _ old

/-- A new channel comes last. -/
theorem Resources.Formed.append {resources : Resources} (formed : resources.Formed) {channel : Channel}
    (new : channel.Formed) : Resources.Formed { resources with channels := resources.channels ++ [channel] } := by
  refine ⟨formed.named, formed.numbered, formed.kinds, fun other member => ?_⟩
  rcases List.mem_append.1 member with old | last
  · exact formed.fields other old
  · rw [List.mem_singleton.1 last]
    exact new

theorem VertexShader.Formed.insert {vertex : VertexShader} (formed : vertex.Formed) {name : String} (value : Value)
    (accepted : isInterfaceName name = true) :
    VertexShader.Formed { vertex with outputs := vertex.outputs.insert name value } := by
  refine ⟨formed.named.insert name value, ?_, formed.position, formed.pointSize⟩
  rintro ⟨other, held⟩ member
  rcases Table.mem_insert member with new | old
  · cases new
    exact accepted
  · exact formed.accepted _ old

theorem FragmentShader.Formed.insert {fragment : FragmentShader} (formed : fragment.Formed) {name : String}
    {value : Value} (accepted : isInterfaceName name = true) (origin : value.source = .leaf (.input name)) :
    FragmentShader.Formed { fragment with inputs := fragment.inputs.insert name value } := by
  refine ⟨formed.named.insert name value, ?_, ?_, formed.color⟩
  · rintro ⟨other, held⟩ member
    rcases Table.mem_insert member with new | old
    · cases new
      exact accepted
    · exact formed.accepted _ old
  · rintro ⟨other, held⟩ member
    rcases Table.mem_insert member with new | old
    · cases new
      exact origin
    · exact formed.origin _ old

/-- A number stands for one value or one node, values are well typed where that is asked for, and documents are
formed. -/
structure History.Regular (manner : Manner) (history : History) : Prop where
  sameKey : ∀ first second, history.Has first → history.Has second → first.key = second.key → first = second
  sameNode : ∀ first second node, history.Has first → history.Has second → first.source.node? = some node →
    second.source.node? = some node → first.source = second.source
  typed : manner.typed → ∀ value, history.Has value → value.Typed
  formed : ∀ entry ∈ history.documents.entries, entry.2.Formed

section

variable {manner : Manner} {history further : History}

/-- What a move makes of a document is formed. -/
theorem History.Moves.formed (moves : history.Moves manner further)
    (formed : ∀ entry ∈ history.documents.entries, entry.2.Formed) :
    ∀ entry ∈ further.documents.entries, entry.2.Formed := by
  have put : ∀ {name : String} {document : Document}, document.Formed →
      ∀ entry ∈ (history.documents.insert name document).entries, entry.2.Formed := by
    rintro name document new ⟨other, held⟩ member
    rcases Table.mem_insert member with same | old
    · cases same
      exact new
    · exact formed _ old
  have before : ∀ {name : String} {document : Document}, history.documents.get? name = some document →
      document.Formed :=
    fun held => formed _ (Table.mem_of_get? held)
  cases moves with
  | draw | add => exact formed
  | create => exact put (Document.formed_blank _)
  | uniform held absent _ origin kind =>
    exact put ((before held).withResources ((before held).resources.insert absent origin kind))
  | channel held new => exact put ((before held).withResources ((before held).resources.append new))
  | input held _ accepted _ origin => exact put ⟨(before held).1, (before held).2.insert accepted origin⟩
  | position held _ type =>
    have old := (before held).2
    refine put ⟨(before held).1, old.named, old.accepted, ?_, old.pointSize⟩
    rintro _ ⟨⟩
    exact type
  | pointSize held _ type =>
    have old := (before held).2
    refine put ⟨(before held).1, old.named, old.accepted, old.position, ?_⟩
    rintro _ ⟨⟩
    exact type
  | output held _ accepted => exact put ⟨(before held).1, (before held).2.insert _ accepted⟩
  | color held _ type =>
    have old := (before held).2
    refine put ⟨(before held).1, old.named, old.accepted, old.origin, ?_⟩
    rintro _ ⟨⟩
    exact type

theorem History.Moves.regular (moves : history.Moves manner further) (regular : history.Regular manner) :
    further.Regular manner := by
  have formed := moves.formed regular.formed
  rcases moves.values_cases with same | ⟨value, admits, typed, more⟩
  · have has : ∀ value, further.Has value ↔ history.Has value := fun value => by rw [Has, Has, same]
    refine ⟨?_, ?_, ?_, formed⟩
    · simpa only [has] using regular.sameKey
    · simpa only [has] using regular.sameNode
    · simpa only [has] using regular.typed
  · have has : ∀ other, further.Has other ↔ other = value ∨ history.Has other := fun other => by
      rw [Has, more, List.mem_cons]
      rfl
    refine ⟨?_, ?_, ?_, formed⟩
    · intro first second firstHas secondHas same
      rcases (has first).1 firstHas with rfl | firstOld <;> rcases (has second).1 secondHas with rfl | secondOld
      · rfl
      · exact absurd same.symm (admits.key.keys second secondOld)
      · exact absurd same (admits.key.keys first firstOld)
      · exact regular.sameKey first second firstOld secondOld same
    · -- A node of the new value is a new one, or it comes with the source of a value that has the node already.
      have fits : ∀ other node, history.Has other → value.source.node? = some node → other.source.node? = some node →
          value.source = other.source := by
        intro other node built isNode otherNode
        rcases admits.source.node node isNode with unused | ⟨shared, sharedBuilt, same⟩
        · exact absurd otherNode (unused.nodes other built)
        · rw [← same] at isNode ⊢
          exact regular.sameNode shared other node sharedBuilt built isNode otherNode
      intro first second node firstHas secondHas firstNode secondNode
      rcases (has first).1 firstHas with rfl | firstOld <;> rcases (has second).1 secondHas with rfl | secondOld
      · rfl
      · exact fits second node secondOld firstNode secondNode
      · exact (fits first node firstOld secondNode firstNode).symm
      · exact regular.sameNode first second node firstOld secondOld firstNode secondNode
    · intro asked other otherHas
      rcases (has other).1 otherHas with rfl | old
      · exact typed asked
      · exact regular.typed asked other old

theorem History.Leads.regular (leads : history.Leads manner further) (regular : history.Regular manner) :
    further.Regular manner := by
  induction leads with
  | refl => exact regular
  | tail _ moves ih => exact moves.regular ih

/-- The ledger of the nodes of the values that are built. -/
def History.ledger (history : History) : Ledger :=
  fun node => (history.values.find? (fun value => value.source.node? == some node)).map Value.source

theorem History.below_ledger (history : History) : history.ledger.Below history.next := by
  intro node source entered
  obtain ⟨value, found, _⟩ := Option.map_eq_some_iff.1 entered
  have isNode : value.source.node? = some node := by simpa using List.find?_some found
  exact history.nodes value (List.mem_of_find?_eq_some found) node isNode

theorem History.Regular.known (regular : history.Regular manner) {value : Value} (built : history.Has value) :
    value.Known manner.typed history.ledger := by
  intro read below
  have readBuilt := History.has_of_reaches built below
  refine ⟨fun asked => regular.typed asked read readBuilt, fun node isNode => ?_⟩
  cases found : history.values.find? (fun value => value.source.node? == some node) with
  | none => exact absurd isNode (by simpa using List.find?_eq_none.1 found read readBuilt)
  | some other =>
    have otherNode : other.source.node? = some node := by simpa using List.find?_some found
    have same := regular.sameNode other read node (List.mem_of_find?_eq_some found) readBuilt otherNode isNode
    rw [History.ledger, found, Option.map_some, same]

end

/-- The values of a channel are known. -/
def Channel.Known (strict : Prop) (ledger : Ledger) (channel : Channel) : Prop :=
  ∀ value ∈ channel.values, value.Known strict ledger

/-- Resources are formed, and the uniforms and the channels are known. -/
structure Resources.Sound (strict : Prop) (ledger : Ledger) (resources : Resources) : Prop extends
    Resources.Formed resources where
  uniforms : ∀ entry ∈ resources.uniforms.entries, entry.2.Known strict ledger
  channels : ∀ channel ∈ resources.channels, channel.Known strict ledger

/-- A vertex stage is formed, and what it writes is known. -/
structure VertexShader.Sound (strict : Prop) (ledger : Ledger) (vertex : VertexShader) : Prop extends
    VertexShader.Formed vertex where
  resources : vertex.resources.Sound strict ledger
  writes : ∀ write ∈ vertex.writes, write.2.Known strict ledger

/-- A fragment stage is formed, and its inputs and what it writes are known. -/
structure FragmentShader.Sound (strict : Prop) (ledger : Ledger) (fragment : FragmentShader) : Prop extends
    FragmentShader.Formed fragment where
  resources : fragment.resources.Sound strict ledger
  inputs : ∀ entry ∈ fragment.inputs.entries, entry.2.Known strict ledger
  writes : ∀ write ∈ fragment.writes, write.2.Known strict ledger

/-- What the document of a stage holds is known and well named. -/
def Document.Sound (strict : Prop) (ledger : Ledger) : Document → Prop
  | .vertex shader => shader.Sound strict ledger
  | .fragment shader => shader.Sound strict ledger

/-- A document of a regular history is sound. -/
theorem History.Regular.sound {manner : Manner} {history : History} (regular : history.Regular manner)
    {entry : String × Document} (member : entry ∈ history.documents.entries) :
    entry.2.Sound manner.typed history.ledger := by
  obtain ⟨name, document⟩ := entry
  have formed := regular.formed _ member
  have within := history.held _ member
  have resources : document.resources.Sound manner.typed history.ledger :=
    { Document.Formed.resources formed with
      uniforms := fun entry held => regular.known (within.uniforms entry held)
      channels := fun channel held value among => regular.known (within.channels channel held value among) }
  cases document with
  | vertex shader =>
    exact { formed.2 with
      resources := resources
      writes := fun write held => regular.known (within.writes write held) }
  | fragment shader =>
    exact { formed.2 with
      resources := resources
      inputs := fun entry held => regular.known (within.inputs entry held)
      writes := fun write held => regular.known (within.writes write held) }

section

variable {strict : Prop} {ledger : Ledger}

theorem VertexShader.mem_writes {vertex : VertexShader} {output : Output} {value : Value} :
    (output, value) ∈ vertex.writes ↔
      (output = .position ∧ vertex.position = some value) ∨ (output = .pointSize ∧ vertex.pointSize = some value) ∨
        ∃ name, output = .named name ∧ (name, value) ∈ vertex.outputs.entries := by
  simp only [VertexShader.writes, List.mem_append, Option.mem_toList, Option.map_eq_some_iff, List.mem_map,
    Prod.mk.injEq, Prod.exists, or_assoc]
  constructor
  · rintro (⟨_, held, rfl, rfl⟩ | ⟨_, held, rfl, rfl⟩ | ⟨name, _, member, rfl, rfl⟩)
    · exact .inl ⟨rfl, held⟩
    · exact .inr (.inl ⟨rfl, held⟩)
    · exact .inr (.inr ⟨name, rfl, member⟩)
  · rintro (⟨rfl, held⟩ | ⟨rfl, held⟩ | ⟨name, rfl, member⟩)
    · exact .inl ⟨value, held, rfl, rfl⟩
    · exact .inr (.inl ⟨value, held, rfl, rfl⟩)
    · exact .inr (.inr ⟨name, value, member, rfl, rfl⟩)

theorem FragmentShader.mem_writes {fragment : FragmentShader} {output : Output} {value : Value} :
    (output, value) ∈ fragment.writes ↔ output = .color ∧ fragment.color = some value := by
  simp only [FragmentShader.writes, Option.mem_toList, Option.map_eq_some_iff, Prod.mk.injEq]
  constructor
  · rintro ⟨_, held, rfl, rfl⟩
    exact ⟨rfl, held⟩
  · rintro ⟨rfl, held⟩
    exact ⟨value, held, rfl, rfl⟩

/-- The outputs of a vertex stage are written once each. -/
theorem VertexShader.Sound.distinct {vertex : VertexShader} (sound : vertex.Sound strict ledger) :
    (vertex.writes.map Prod.fst).Nodup := by
  have named : (vertex.outputs.entries.map (fun entry => Output.named entry.1)).Nodup := by
    have injective : ∀ first second : String, Output.named first = Output.named second → first = second := by simp
    have names : (vertex.outputs.entries.map Prod.fst).Nodup := sound.named
    rw [List.Nodup, List.pairwise_map] at names ⊢
    exact names.imp (fun differ same => differ (injective _ _ same))
  simp only [VertexShader.writes, List.map_append, List.map_map, Function.comp_def]
  cases vertex.position <;> cases vertex.pointSize <;> simp [named]

theorem Document.Sound.resources {document : Document} (sound : document.Sound strict ledger) :
    document.resources.Sound strict ledger := by
  cases document with
  | vertex shader => exact VertexShader.Sound.resources sound
  | fragment shader => exact FragmentShader.Sound.resources sound

theorem Document.Sound.writes {document : Document} (sound : document.Sound strict ledger) :
    ∀ write ∈ document.writes, write.2.Known strict ledger := by
  cases document with
  | vertex shader => exact VertexShader.Sound.writes sound
  | fragment shader => exact FragmentShader.Sound.writes sound

theorem Document.Sound.distinct {document : Document} (sound : document.Sound strict ledger) :
    (document.writes.map Prod.fst).Nodup := by
  cases document with
  | vertex shader => exact VertexShader.Sound.distinct sound
  | fragment shader =>
    simp only [Document.writes, FragmentShader.writes]
    cases shader.color <;> simp

theorem Document.Sound.known_of_reached {document : Document} (sound : document.Sound strict ledger) {value : Value}
    (reached : document.Reached value) : value.Known strict ledger := by
  obtain ⟨target, member, below⟩ := reached
  exact (sound.writes target member).reaches below

/-- What a sound document writes can be planned: the ledger says which node a number stands for. -/
theorem Document.Sound.coherent {document : Document} (sound : document.Sound strict ledger) :
    document.plan.Coherent where
  distinct := sound.distinct
  sameNode := by
    intro first second node firstReached secondReached firstNode secondNode
    have firstEntered := (sound.known_of_reached firstReached).entered firstNode
    have secondEntered := (sound.known_of_reached secondReached).entered secondNode
    exact Option.some.inj (firstEntered.symm.trans secondEntered)

end

/-- Moves can keep the document under the name, with the history then as stated. -/
def History.Installs (manner : Manner) (history : History) (name : String) (document : Document)
    (Post : History → Prop) : Prop :=
  ∃ further, history.Leads manner further ∧ further.documents = history.documents.insert name document ∧
    further.next = history.next ∧ Post further

section

variable {manner : Manner} {history : History} {name : String} {document : Document}

private theorem Document.withResources_self (document : Document) :
    document.withResources document.resources = document := by
  cases document <;> rfl

private theorem History.installs_same (held : history.documents.get? name = some document) {Post : History → Prop}
    (holds : Post history) : history.Installs manner name document Post :=
  ⟨history, .refl, (Table.insert_same held).symm, rfl, holds⟩

theorem History.Installs.of_move {document : Document} {within : document.Within history.values}
    (moves : history.Moves manner (history.put name document within)) :
    history.Installs manner name document (fun _ => True) :=
  ⟨_, .single moves, rfl, rfl, trivial⟩

theorem Document.Within.withResources {document : Document} {values : List Value} (within : document.Within values)
    {resources : Resources} (uniforms : ∀ entry ∈ resources.uniforms.entries, entry.2 ∈ values)
    (channels : ∀ channel ∈ resources.channels, ∀ value ∈ channel.values, value ∈ values) :
    (document.withResources resources).Within values := by
  cases document with
  | vertex shader => exact ⟨uniforms, channels, within.inputs, within.writes⟩
  | fragment shader => exact ⟨uniforms, channels, within.inputs, within.writes⟩

theorem Document.within_blank (stage : Stage) (values : List Value) : (Document.blank stage).Within values := by
  cases stage with
  | vertex | fragment =>
    refine ⟨?_, ?_, ?_, ?_⟩ <;> exact fun _ member => nomatch member

theorem Document.within_of_get? (held : history.documents.get? name = some document) :
    document.Within history.values :=
  history.held _ (Table.mem_of_get? held)

private theorem mem_of_insert {table : Table Value} {values : List Value}
    (among : ∀ entry ∈ table.entries, entry.2 ∈ values) {name : String} {value : Value} (built : value ∈ values) :
    ∀ entry ∈ (table.insert name value).entries, entry.2 ∈ values := by
  rintro ⟨other, held⟩ member
  rcases Table.mem_insert member with new | old
  · cases new
    exact built
  · exact among _ old

/-- The declared type of a kind is one of its own. -/
theorem Kind.declaredType_eq_ok {kind : Kind} {component : ScalarType} {type : ShaderType}
    (declared : kind.declaredType component = .ok type) : type ∈ kind.types := by
  cases kind <;> cases component <;> cases declared <;> decide

/-- A uniform that is found or declared has the type that is asked for. -/
theorem Resources.yields_uniform (held : history.documents.get? name = some document) (asked : String) (kind : Kind)
    (component : ScalarType) :
    Build.Yields manner history (document.resources.uniform asked kind component)
      (fun further result => further.Installs manner name (document.withResources result.2)
        (fun last => last.Has result.1 ∧ kind.declaredType component = .ok result.1.type)) := by
  unfold Resources.uniform
  split
  · rename_i suitable
    refine (Build.yields_lift _).bind ?_
    rintro _ type _ ⟨rfl, declared⟩
    split
    · rename_i existing found
      split
      · rename_i same
        refine .pure ?_
        rw [Document.withResources_self]
        have built := (Document.within_of_get? held).uniforms _ (Table.mem_of_get? found)
        exact History.installs_same held ⟨built, same ▸ declared⟩
      · exact Build.yields_violate _ _
    · rename_i absent
      refine (Kind.yields_wrap _ _ _).withDocuments.bind ?_
      rintro further value leads ⟨documents, same, key, type, unused, resolved, rfl⟩
      obtain ⟨rfl, own⟩ := Kind.resolveType_some resolved
      have heldOn : further.documents.get? name = some document := documents ▸ held
      have ofKind : type.kind ∈ uniformKinds := by
        rw [((Kind.mem_types_iff _ _).1 own).1]
        exact suitable
      have admits : further.Admits (.mk key type (.leaf (.uniform document.resources.uniforms.size type))) :=
        ⟨unused, History.accepts_leaf _⟩
      have within : document.Within (further.add _ admits).values :=
        (Document.within_of_get? heldOn).mono (fun _ => List.mem_cons_of_mem _)
      refine .pure ⟨_, .single (.uniform heldOn absent admits rfl ofKind ?_), rfl, rfl, List.mem_cons_self, declared⟩
      exact within.withResources (mem_of_insert within.uniforms List.mem_cons_self) within.channels
  · exact Build.yields_violate _ _

/-- The values of a channel are built. -/
def Channel.Built (history : History) (channel : Channel) : Prop :=
  ∀ value ∈ channel.values, history.Has value

private theorem Channel.yields_create (manner : Manner) {index : Nat} (slot : index < materialSlots) :
    Build.Yields manner history (Channel.create index) (fun further channel => channel.Built further ∧ channel.Formed) := by
  have field : ∀ {history : History} (field : MaterialField),
      Build.Yields manner history (Value.ofLeaf (.material index field) field.type) (fun further value =>
        further.Has value ∧ value.type = field.type ∧ value.source = .leaf (.material index field)) := by
    intro history field
    have typed : (Leaf.material index field).Typed field.type := ⟨rfl, by omega, by omega⟩
    exact (Value.yields_ofLeaf typed).and (Value.yields_ofType_eq _ _)
  unfold Channel.create
  refine (field .texture).bind (fun _ texture _ ⟨textureBuilt, textureType, textureOrigin⟩ => ?_)
  refine (field .scale).bind (fun _ scale scaleLeads ⟨scaleBuilt, scaleType, scaleOrigin⟩ => ?_)
  refine (field .offset).bind (fun _ offset offsetLeads ⟨offsetBuilt, offsetType, offsetOrigin⟩ => ?_)
  refine (field .color).bind (fun _ color colorLeads ⟨colorBuilt, colorType, colorOrigin⟩ => ?_)
  refine .pure ⟨fun value member => ?_, fun field => ?_⟩
  · simp only [Channel.values, List.mem_cons, List.not_mem_nil, or_false] at member
    rcases member with rfl | rfl | rfl | rfl
    · exact colorLeads.has (offsetLeads.has (scaleLeads.has textureBuilt))
    · exact colorLeads.has (offsetLeads.has scaleBuilt)
    · exact colorLeads.has offsetBuilt
    · exact colorBuilt
  · cases field with
    | texture => exact ⟨textureOrigin, textureType⟩
    | scale => exact ⟨scaleOrigin, scaleType⟩
    | offset => exact ⟨offsetOrigin, offsetType⟩
    | color => exact ⟨colorOrigin, colorType⟩

theorem Channel.field_mem_values (channel : Channel) (field : MaterialField) :
    channel.field field ∈ channel.values := by
  cases field <;> simp [Channel.field, Channel.values]

theorem Resources.yields_channel (held : history.documents.get? name = some document)
    (formed : document.resources.Formed) (index : Int) :
    Build.Yields manner history (document.resources.channel index)
      (fun further result => further.Installs manner name (document.withResources result.2)
        (fun last => result.1.Built last ∧ result.1.Formed)) := by
  unfold Resources.channel
  split
  · rename_i slot
    split
    · rename_i channel found
      have member := List.mem_of_find?_eq_some found
      refine .pure ?_
      rw [Document.withResources_self]
      exact History.installs_same held
        ⟨(Document.within_of_get? held).channels channel member, formed.fields channel member⟩
    · refine (Channel.yields_create manner (show index.toNat < materialSlots by omega)).withDocuments.bind ?_
      rintro further channel _ ⟨documents, built, new⟩
      have heldOn : further.documents.get? name = some document := documents ▸ held
      have within := Document.within_of_get? heldOn
      refine .pure ⟨_, .single (.channel heldOn new (within.withResources within.uniforms ?_)), rfl, rfl, built, new⟩
      intro other member
      rcases List.mem_append.1 member with old | last
      · exact within.channels other old
      · obtain rfl := List.mem_singleton.1 last
        exact built
  · exact Build.yields_throw _ _

private theorem isInterfaceName_of_accept {side : Side} {name : String} (accepted : acceptName side name = .ok ()) :
    isInterfaceName name = true := by
  unfold acceptName at accepted
  split at accepted
  · assumption
  · exact nomatch accepted

/-- An input that is found or declared has the type that is asked for. -/
theorem FragmentShader.yields_input {shader : FragmentShader}
    (held : history.documents.get? name = some (.fragment shader)) (asked : String) (kind : Kind)
    (component : ScalarType) :
    Build.Yields manner history (shader.input asked kind component)
      (fun further result => further.Installs manner name (.fragment result.2)
        (fun last => last.Has result.1 ∧ kind.declaredType component = .ok result.1.type)) := by
  unfold FragmentShader.input
  refine (Build.yields_lift _).bind ?_
  rintro _ _ _ ⟨rfl, accepted⟩
  refine (Build.yields_lift _).bind ?_
  rintro _ type _ ⟨rfl, declared⟩
  split
  · rename_i existing found
    split
    · rename_i same
      have built := (Document.within_of_get? held).inputs _ (Table.mem_of_get? found)
      exact .pure (History.installs_same held ⟨built, same ▸ declared⟩)
    · exact Build.yields_violate _ _
  · rename_i absent
    refine (Kind.yields_wrap _ _ _).withDocuments.bind ?_
    rintro further value leads ⟨documents, same, key, type, unused, resolved, rfl⟩
    obtain ⟨rfl, own⟩ := Kind.resolveType_some resolved
    have proper := ((Kind.mem_types_iff _ _).1 own).2
    have heldOn : further.documents.get? name = some (.fragment shader) := documents ▸ held
    have admits : further.Admits (.mk key type (.leaf (.input asked))) := ⟨unused, History.accepts_leaf _⟩
    have within : (Document.fragment shader).Within (further.add _ admits).values :=
      (Document.within_of_get? heldOn).mono (fun _ => List.mem_cons_of_mem _)
    refine .pure ⟨_, .single (.input heldOn absent (isInterfaceName_of_accept accepted) admits rfl proper ?_), rfl,
      rfl, List.mem_cons_self, declared⟩
    exact ⟨within.uniforms, within.channels, mem_of_insert within.inputs List.mem_cons_self, within.writes⟩

private theorem VertexShader.within_of_writes {shader changed : VertexShader} {values : List Value} {value : Value}
    (within : (Document.vertex shader).Within values) (built : value ∈ values)
    (resources : changed.resources = shader.resources)
    (writes : ∀ write ∈ changed.writes, write.2 = value ∨ write ∈ shader.writes) :
    (Document.vertex changed).Within values := by
  refine ⟨?_, ?_, within.inputs, fun write member => ?_⟩
  · rw [Document.resources, resources]
    exact within.uniforms
  · rw [Document.resources, resources]
    exact within.channels
  · rcases writes write member with new | old
    · rw [new]
      exact built
    · exact within.writes write old

theorem VertexShader.installs_position {shader changed : VertexShader} {value : Value}
    (held : history.documents.get? name = some (.vertex shader)) (built : history.Has value)
    (set : shader.setPosition value = .ok changed) :
    history.Installs manner name (.vertex changed) (fun _ => True) := by
  unfold VertexShader.setPosition at set
  split at set
  · rename_i type
    cases set
    refine .of_move (.position held built type (VertexShader.within_of_writes (Document.within_of_get? held) built rfl ?_))
    rintro ⟨output, written⟩ member
    rcases VertexShader.mem_writes.1 member with ⟨_, ⟨⟩⟩ | others
    · exact .inl rfl
    · exact .inr (VertexShader.mem_writes.2 (.inr others))
  · exact nomatch set

theorem VertexShader.installs_pointSize {shader changed : VertexShader} {value : Value}
    (held : history.documents.get? name = some (.vertex shader)) (built : history.Has value)
    (set : shader.setPointSize value = .ok changed) :
    history.Installs manner name (.vertex changed) (fun _ => True) := by
  unfold VertexShader.setPointSize at set
  split at set
  · rename_i type
    cases set
    refine .of_move (.pointSize held built type (VertexShader.within_of_writes (Document.within_of_get? held) built rfl ?_))
    rintro ⟨output, written⟩ member
    rcases VertexShader.mem_writes.1 member with position | ⟨_, ⟨⟩⟩ | named
    · exact .inr (VertexShader.mem_writes.2 (.inl position))
    · exact .inl rfl
    · exact .inr (VertexShader.mem_writes.2 (.inr (.inr named)))
  · exact nomatch set

private theorem VertexShader.setOutput_eq_ok {shader changed : VertexShader} {asked : String} {value : Value}
    (set : shader.setOutput asked value = .ok changed) :
    isInterfaceName asked = true ∧ (∀ existing, shader.outputs.get? asked = some existing →
      existing.type = value.type) ∧ changed = { shader with outputs := shader.outputs.insert asked value } := by
  unfold VertexShader.setOutput at set
  cases checked : acceptName .output asked with
  | error => exact nomatch (checked ▸ set)
  | ok =>
    rw [checked] at set
    simp only [bind, Except.bind] at set
    split at set
    · rename_i absent
      cases set
      exact ⟨isInterfaceName_of_accept checked, fun existing found => (nomatch absent.symm.trans found), rfl⟩
    · rename_i old present
      split at set
      · rename_i same
        cases set
        refine ⟨isInterfaceName_of_accept checked, fun existing found => ?_, rfl⟩
        cases present.symm.trans found
        exact same
      · exact nomatch set

theorem VertexShader.installs_output {shader changed : VertexShader} {asked : String} {value : Value}
    (held : history.documents.get? name = some (.vertex shader)) (built : history.Has value)
    (set : shader.setOutput asked value = .ok changed) :
    history.Installs manner name (.vertex changed) (fun _ => True) := by
  obtain ⟨accepted, type, rfl⟩ := VertexShader.setOutput_eq_ok set
  refine .of_move (.output held built accepted type
    (VertexShader.within_of_writes (Document.within_of_get? held) built rfl ?_))
  rintro ⟨output, written⟩ member
  rcases VertexShader.mem_writes.1 member with position | pointSize | ⟨other, rfl, entered⟩
  · exact .inr (VertexShader.mem_writes.2 (.inl position))
  · exact .inr (VertexShader.mem_writes.2 (.inr (.inl pointSize)))
  · rcases Table.mem_insert entered with new | old
    · cases new
      exact .inl rfl
    · exact .inr (VertexShader.mem_writes.2 (.inr (.inr ⟨other, rfl, old⟩)))

theorem FragmentShader.installs_color {shader changed : FragmentShader} {value : Value}
    (held : history.documents.get? name = some (.fragment shader)) (built : history.Has value)
    (set : shader.setColor value = .ok changed) :
    history.Installs manner name (.fragment changed) (fun _ => True) := by
  unfold FragmentShader.setColor at set
  split at set
  · rename_i type
    cases set
    have within := Document.within_of_get? held
    refine .of_move (.color held built type ⟨within.uniforms, within.channels, within.inputs, ?_⟩)
    rintro ⟨output, written⟩ member
    obtain ⟨_, ⟨⟩⟩ := FragmentShader.mem_writes.1 member
    exact built
  · exact nomatch set

theorem VertexShader.yields_readOutput {shader : VertexShader}
    (accepted : ∀ entry ∈ shader.outputs.entries, isInterfaceName entry.1 = true) (asked : String) :
    Build.Yields manner history (shader.readOutput asked) History.Has := by
  unfold VertexShader.readOutput
  split
  · rename_i existing found
    exact Value.yields_ofLeaf (accepted (asked, existing) (Table.mem_of_get? found))
  · exact Build.yields_throw _ _

end

end Shading
