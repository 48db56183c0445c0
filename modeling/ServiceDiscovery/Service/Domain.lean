import ServiceDiscovery.Question
import ServiceDiscovery.Service.Type

/-!
# Domains

A `Domain` is where services are browsed for, usually the link-local one.
`Domain.parse` reads it from its own name or from the name of a service in it,
with or without the final dot.
-/

namespace ServiceDiscovery

/-- Where services are browsed for: one or more labels. -/
structure Domain where
  labels : List String
  labels_ne_nil : labels ≠ []
  label_valid : ∀ label ∈ labels, label ≠ "" ∧ label.utf8ByteSize ≤ Name.maxLabelLength
  deriving DecidableEq, Repr

namespace Domain

/-- The domain of the link, `local`. -/
def linkLocal : Domain where
  labels := ["local"]
  labels_ne_nil := by simp
  label_valid := by decide

def name (domain : Domain) : String :=
  ".".intercalate domain.labels

/-- The name of a domain with the final dot. -/
def display (domain : Domain) : String :=
  domain.name ++ "."

/-- The labels behind the last one that names a protocol, all labels if none
does. -/
def afterProtocol (labels : List String) : List String :=
  (labels.reverse.takeWhile fun label => Protocol.ofLabel? label = none).reverse

def ofLabels? (labels : List String) : Option Domain :=
  if h : labels ≠ [] ∧
      ∀ label ∈ labels, label ≠ "" ∧ label.utf8ByteSize ≤ Name.maxLabelLength then
    some { labels, labels_ne_nil := h.1, label_valid := h.2 }
  else
    none

/-- Reads the name of a domain, or of a service in it. -/
def parse (text : String) : Except DiscoveryError Domain :=
  match ofLabels? (afterProtocol (Name.dropFinalDot text).pieces) with
  | some domain => .ok domain
  | none => .error (.invalidDomain text)

end Domain

/-- The question for all instances of a service type in a domain. -/
def Question.browse (type : ServiceType) (domain : Domain) : Question :=
  .internet (".".intercalate (type.labels ++ domain.labels) ++ ".") .ptr

end ServiceDiscovery
