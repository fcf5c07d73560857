import Rulebook.Declaration
import Rulebook.Digest

namespace Rulebook.Declaration

-- A field is its length and its bytes, so that fields cannot run into each other.
def field (bytes : List UInt8) : List UInt8 :=
  Bytes.littleEndian 8 bytes.length ++ bytes

-- The fields that tell the sources of one predicate apart. Paths count as they are written.
def sourceFields : Option DataSource → List (List UInt8)
  | none => [Bytes.ofText "facts"]
  | some (.csvFile path) => [Bytes.ofText "csv", path.bytes]
  | some (.rdfFile path) => [Bytes.ofText "rdf", path.bytes]
  | some (.sparqlQuery endpoint selection query) =>
    [Bytes.ofText "sparql", Bytes.ofText endpoint, Bytes.ofText selection, Bytes.ofText query]

def identifyingFields (d : Declaration) : List (List UInt8) :=
  Bytes.ofText d.predicate.name :: Bytes.littleEndian 8 d.predicate.arity :: sourceFields d.source

-- The bytes that an identifier is the digest of.
def canonicalBytes (d : Declaration) : List UInt8 :=
  d.identifyingFields.flatMap field

-- The first eight bytes of the digest, in hexadecimal.
def identifier (d : Declaration) : String :=
  String.ofList (Bytes.hex ((Digest.digest d.canonicalBytes).take 8))

theorem length_identifier {d : Declaration} : d.identifier.length = 16 := by
  simp [identifier, Bytes.length_hex, Digest.length_digest]

end Rulebook.Declaration
