import CloudTemplate.Digest.Sha256
import CloudTemplate.Json.Canonical
import CloudTemplate.Template.Document

/-!
# Fingerprints

Two runs that start from the same graph, or end in the same template, are recognised by a
fingerprint: the SHA-256 digest of a canonical text.  The order of entries does not change it.  The
text behind the fingerprint of a graph also names the graph and the version of the engine.
-/

namespace CloudTemplate

/-- The fingerprint of a template. -/
def Template.fingerprint (t : Template) : String := sha256OfText t.toJson.canonicalText

/-- The text whose digest is the fingerprint of a graph: its name, its canonical text and the
version of the engine, with colons between them. -/
def Graph.fingerprintText (g : Graph) (engineVersion : String) : String :=
  g.name ++ ":" ++ g.toJson.canonicalText ++ ":" ++ engineVersion

/-- The fingerprint of a graph under a version of the engine. -/
def Graph.fingerprint (g : Graph) (engineVersion : String) : String :=
  sha256OfText (g.fingerprintText engineVersion)

end CloudTemplate
