/-!
The vocabularies whose names may be abbreviated. Each has a short name, and an abbreviated name is
the IRI of its vocabulary followed by the rest of the name.
-/

namespace TripleIndex

inductive Scheme where
  | plain
  | secure
  deriving DecidableEq, Repr

def Scheme.text : Scheme → String
  | plain => "http:"
  | secure => "https:"

structure Vocabulary where
  short : String
  scheme : Scheme
  place : String

namespace Vocabulary

def iri (v : Vocabulary) : String := v.scheme.text ++ "//" ++ v.place

def known : List Vocabulary := [
  ⟨"brick", .secure, "brickschema.org/schema/Brick#"⟩,
  ⟨"csvw", .plain, "www.w3.org/ns/csvw#"⟩,
  ⟨"dc", .plain, "purl.org/dc/elements/1.1/"⟩,
  ⟨"dcat", .plain, "www.w3.org/ns/dcat#"⟩,
  ⟨"dcmitype", .plain, "purl.org/dc/dcmitype/"⟩,
  ⟨"dcterms", .plain, "purl.org/dc/terms/"⟩,
  ⟨"dcam", .plain, "purl.org/dc/dcam/"⟩,
  ⟨"doap", .plain, "usefulinc.com/ns/doap#"⟩,
  ⟨"foaf", .plain, "xmlns.com/foaf/0.1/"⟩,
  ⟨"geo", .plain, "www.opengis.net/ont/geosparql#"⟩,
  ⟨"odrl", .plain, "www.w3.org/ns/odrl/2/"⟩,
  ⟨"org", .plain, "www.w3.org/ns/org#"⟩,
  ⟨"owl", .plain, "www.w3.org/2002/07/owl#"⟩,
  ⟨"prof", .plain, "www.w3.org/ns/dx/prof/"⟩,
  ⟨"prov", .plain, "www.w3.org/ns/prov#"⟩,
  ⟨"qb", .plain, "purl.org/linked-data/cube#"⟩,
  ⟨"rdf", .plain, "www.w3.org/1999/02/22-rdf-syntax-ns#"⟩,
  ⟨"rdfs", .plain, "www.w3.org/2000/01/rdf-schema#"⟩,
  ⟨"schema", .secure, "schema.org/"⟩,
  ⟨"sh", .plain, "www.w3.org/ns/shacl#"⟩,
  ⟨"skos", .plain, "www.w3.org/2004/02/skos/core#"⟩,
  ⟨"sosa", .plain, "www.w3.org/ns/sosa/"⟩,
  ⟨"ssn", .plain, "www.w3.org/ns/ssn/"⟩,
  ⟨"time", .plain, "www.w3.org/2006/time#"⟩,
  ⟨"vann", .plain, "purl.org/vocab/vann/"⟩,
  ⟨"void", .plain, "rdfs.org/ns/void#"⟩,
  ⟨"wgs", .secure, "www.w3.org/2003/01/geo/wgs84_pos#"⟩,
  ⟨"xml", .plain, "www.w3.org/XML/1998/namespace"⟩,
  ⟨"xsd", .plain, "www.w3.org/2001/XMLSchema#"⟩]

/-- The IRI that an abbreviation stands for. -/
def expand? (short : String) : Option String := (known.find? (·.short = short)).map iri

end Vocabulary

end TripleIndex
