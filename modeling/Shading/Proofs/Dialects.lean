import Shading.Proofs.Sources

/-!
# The two dialects

The dialects share everything but the header of a source. Since blank lines are dropped by looking at the line above
them, it has to be shown that a shorter header changes no line further down: what is pushed to a listing depends on its
last line alone (`Listing.pushAll_onto`), and both headers end with the same blank line.
-/

namespace Shading

open Glsl

namespace Listing

/-- The listing with older lines under its own ones. -/
def onto (listing : Listing) (below : List String) : Listing :=
  { listing with written := listing.written ++ below }

private theorem push_ne_nil {listing : Listing} (held : listing.written ≠ []) (line : String) :
    (listing.push line).written ≠ [] := by
  unfold push
  split
  · split
    · exact held
    · exact held
    · simp
  · simp

private theorem push_onto {listing : Listing} (held : listing.written ≠ []) (below : List String) (line : String) :
    (listing.onto below).push line = (listing.push line).onto below := by
  obtain ⟨indent, level, written⟩ := listing
  cases written with
  | nil => exact absurd rfl held
  | cons last older =>
    by_cases blank : line = ""
    · by_cases again : last = ""
      · simp [push, onto, blank, again]
      · simp [push, onto, blank, again]
    · simp [push, onto, blank, margin]

/-- Lines that are pushed to a listing which holds a line do not see what is below it. -/
theorem pushAll_onto {listing : Listing} (held : listing.written ≠ []) (below lines : List String) :
    (listing.onto below).pushAll lines = (listing.pushAll lines).onto below := by
  induction lines generalizing listing with
  | nil => rfl
  | cons line rest ih =>
    have others := ih (push_ne_nil held line)
    rw [← push_onto held] at others
    simpa [pushAll] using others

end Listing

/-- The lines of a preamble under its header. -/
def Glsl.Preamble.content (preamble : Preamble) : List String :=
  preamble.uniforms.map Declaration.text ++ [""] ++ preamble.interface.map Declaration.text ++ [""] ++ materialLines ++
    (if preamble.hasTextures then [textureLine] else []) ++ [""]

/-- The lines of a source under its header, the first of which is blank. -/
def contentLines (preamble : Preamble) (body : String) : List String :=
  ({ Listing.empty with written := [""] }.pushAll preamble.content).lines ++
    bodyHeader :: ((if body = "" then [] else Text.lines body) ++ ["\x7d"])

private theorem pushAll_headerLines (dialect : Dialect) :
    Listing.empty.pushAll (headerLines dialect) =
      { Listing.empty with written := [""] }.onto (dialect.versionLine :: dialect.precision).reverse := by
  have left : ∀ written, Listing.margin ⟨"    ", 0, written⟩ = "" := fun _ => rfl
  cases dialect <;>
    simp [headerLines, Dialect.versionLine, Dialect.precision, Listing.pushAll, Listing.push, Listing.onto, Listing.empty,
      left]

private theorem lines_assemble_preamble (preamble : Preamble) (dialect : Dialect) (body : String) :
    (assemble (preamble.lines dialect) body).lines =
      dialect.versionLine :: dialect.precision ++ contentLines preamble body := by
  have parts : preamble.lines dialect = headerLines dialect ++ preamble.content := by
    simp [Preamble.lines, Preamble.content]
  have pushed : (Listing.empty.pushAll (preamble.lines dialect)).lines = dialect.versionLine :: dialect.precision ++
      ({ Listing.empty with written := [""] }.pushAll preamble.content).lines := by
    have split : Listing.empty.pushAll (headerLines dialect ++ preamble.content) =
        (Listing.empty.pushAll (headerLines dialect)).pushAll preamble.content := List.foldl_append
    rw [parts, split, pushAll_headerLines, Listing.pushAll_onto (by simp)]
    simp [Listing.lines, Listing.onto]
  rw [lines_assemble, pushed, contentLines, List.append_assoc]

private theorem lines_text_assemble (preamble : Preamble) (dialect : Dialect) (body : String) :
    Text.lines (assemble (preamble.lines dialect) body).text =
      dialect.versionLine :: dialect.precision ++ Text.lines (Text.unlines (contentLines preamble body)) := by
  have free : ∀ line ∈ dialect.versionLine :: dialect.precision, '\n' ∉ line.toList := by
    cases dialect <;> decide +kernel
  have filled : contentLines preamble body ≠ [] := by simp [contentLines]
  rw [Listing.text, lines_assemble_preamble, Text.lines_unlines_append free filled]

/-- A source whose first three lines give way to the version directive of the other dialect. -/
def underCoreHeader (source : String) : String :=
  Text.unlines ("#version 330 core" :: (Text.lines source).drop 3)

/-- The first three lines of a source are the version directive and the two precision statements. -/
def HasEmbeddedHeader (source : String) : Prop :=
  (Text.lines source).take 3 = ["#version 300 es", "precision highp float;", "precision highp int;"]

private theorem hasEmbeddedHeader_assemble (preamble : Preamble) (body : String) :
    HasEmbeddedHeader (assemble (preamble.lines .es300) body).text := by
  simp [HasEmbeddedHeader, lines_text_assemble, Dialect.versionLine, Dialect.precision]

private theorem underCoreHeader_assemble (preamble : Preamble) (body : String) :
    underCoreHeader (assemble (preamble.lines .es300) body).text = (assemble (preamble.lines .core330) body).text := by
  have kept : (Text.lines (assemble (preamble.lines .es300) body).text).drop 3 =
      Text.lines (Text.unlines (contentLines preamble body)) := by
    simp [lines_text_assemble, Dialect.precision]
  have core := Text.unlines_lines (assemble (preamble.lines .core330) body).text
  simp only [lines_text_assemble, Dialect.versionLine, Dialect.precision, List.cons_append, List.nil_append] at core
  rw [underCoreHeader, kept, core]

/-- Both sources changed in the same way. -/
def Sources.map (change : String → String) (sources : Sources) : Sources :=
  ⟨change sources.vertex, change sources.fragment⟩

namespace Generator

/-- The generator with another dialect. -/
def withDialect (generator : Generator) (dialect : Dialect) : Generator :=
  { generator with dialect := dialect }

private theorem result_source_core (generator : Generator) (document : Document) (title : String)
    (preamble : Except Error Preamble) :
    ((generator.withDialect .core330).source document title preamble).result =
      ((generator.withDialect .es300).source document title preamble).result.map underCoreHeader := by
  rw [result_source, result_source]
  -- The body is rendered before the dialect is looked at.
  have same : ((generator.withDialect .core330).body document).result =
      ((generator.withDialect .es300).body document).result := rfl
  rw [same]
  cases preamble with
  | error => rfl
  | ok found =>
    cases ((generator.withDialect .es300).body document).result with
    | error => rfl
    | ok body => exact congrArg Except.ok (underCoreHeader_assemble found body).symm

private theorem hasEmbeddedHeader_of_source (generator : Generator) {document : Document} {title : String}
    {preamble : Except Error Preamble} {text : String}
    (done : ((generator.withDialect .es300).source document title preamble).result = .ok text) :
    HasEmbeddedHeader text := by
  obtain ⟨found, body, _, _, _, rfl⟩ := source_eq_ok done
  exact hasEmbeddedHeader_assemble found body

private theorem result_generate_core (generator : Generator) (vertex : VertexShader) (fragment : FragmentShader)
    (attributes : List Attribute) :
    ((generator.withDialect .core330).generate vertex fragment attributes).result =
      ((generator.withDialect .es300).generate vertex fragment attributes).result.map (Sources.map underCoreHeader) := by
  have vertexStage : (((generator.withDialect .core330).renew (some .vertex)).vertexSource vertex attributes).result =
      (((generator.withDialect .es300).renew (some .vertex)).vertexSource vertex attributes).result.map underCoreHeader :=
    result_source_core (generator.renew _) _ _ _
  have fragmentStage : (((generator.withDialect .core330).renew (some .fragment)).fragmentSource fragment).result =
      (((generator.withDialect .es300).renew (some .fragment)).fragmentSource fragment).result.map underCoreHeader :=
    result_source_core (generator.renew _) _ _ _
  rw [result_generate, result_generate, vertexStage, fragmentStage]
  cases checkLink vertex fragment attributes with
  | error => rfl
  | ok =>
    cases (((generator.withDialect .es300).renew (some .vertex)).vertexSource vertex attributes).result with
    | error => rfl
    | ok => cases (((generator.withDialect .es300).renew (some .fragment)).fragmentSource fragment).result <;> rfl

/-- For any documents, attributes and generator: the sources are generated in both dialects, or the same error arises in
both, and a source of the core dialect is that of the embedded one with its first three lines, which are the version
directive and two precision statements, replaced by one. -/
theorem dialects_equivalent (generator : Generator) (vertex : VertexShader) (fragment : FragmentShader)
    (attributes : List Attribute) :
    ((generator.withDialect .core330).generate vertex fragment attributes).result =
        ((generator.withDialect .es300).generate vertex fragment attributes).result.map (Sources.map underCoreHeader) ∧
      ∀ sources, ((generator.withDialect .es300).generate vertex fragment attributes).result = .ok sources →
        HasEmbeddedHeader sources.vertex ∧ HasEmbeddedHeader sources.fragment := by
  refine ⟨result_generate_core generator vertex fragment attributes, ?_⟩
  intro sources generated
  obtain ⟨_, vertexDone, fragmentDone⟩ := generate_eq_ok generated
  constructor
  · exact hasEmbeddedHeader_of_source (generator.renew _) vertexDone
  · exact hasEmbeddedHeader_of_source (generator.renew _) fragmentDone

open Script Script.tinted in
/-- The program that reads `tint` back is generated in both dialects. -/
theorem dialects_tinted : ∃ sources,
    ((Generator.ofDialect .es300).generate vertex fragment [⟨.color, 0⟩]).result = .ok sources ∧
      ((Generator.ofDialect .core330).generate vertex fragment [⟨.color, 0⟩]).result =
        .ok (sources.map underCoreHeader) ∧ HasEmbeddedHeader sources.vertex ∧ HasEmbeddedHeader sources.fragment := by
  obtain ⟨sources, ran⟩ :
      ∃ sources, ((Generator.ofDialect .es300).generate vertex fragment [⟨.color, 0⟩]).result = .ok sources :=
    exists_ok_of_toOption (by decide +kernel)
  obtain ⟨core, headed⟩ := dialects_equivalent (.ofDialect .es300) vertex fragment [⟨.color, 0⟩]
  refine ⟨sources, ran, core.trans ?_, headed sources ran⟩
  exact congrArg (Except.map (Sources.map underCoreHeader)) ran

end Generator

end Shading
