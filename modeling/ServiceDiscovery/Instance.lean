import ServiceDiscovery.Response

/-!
# Instances

An `Instance` is a service that was found: what the records collected in a
response tell about the target of a PTR record. `Instance.ofRecords?` puts it
together.
-/

namespace ServiceDiscovery

structure Instance where
  name : String
  addresses : AddressSet
  port : UInt16
  attributes : Attributes
  deriving DecidableEq, Repr

namespace Instance

/-- The instance that a PTR record points to. It takes an SRV record to know
one, attributes and addresses may be missing. -/
def ofRecords? (target : Name) (records : Response) : Option Instance :=
  (records.srvFor? target).map fun (port, host) => {
    name := target.userVisible
    addresses := AddressSet.ofList (records.addressesFor host)
    port
    attributes := (records.txtFor? target).getD .empty }

def hasAttribute (found : Instance) (key : String) : Bool :=
  (found.attributes.get? key).isSome

def lookupAttribute? (found : Instance) (key : String) : Option String :=
  found.attributes.get? key

def display (found : Instance) : String :=
  let addresses := ", ".intercalate (found.addresses.toList.map Address.text)
  let attributes := found.attributes.toList.map fun entry => " " ++ Attributes.entryText entry
  s!"{found.name} ({addresses}) port {found.port}{String.join attributes}"

/-- Orders instances by name, then by port, by addresses and by attributes. -/
def order (x y : Instance) : Ordering :=
  (compare x.name y.name).then <|
    (compare x.port y.port).then <|
      (List.compareLex (compareOn Address.rank) x.addresses.toList y.addresses.toList).then <|
        List.compareLex (compareLex (compareOn Prod.fst) (compareOn Prod.snd))
          x.attributes.toList y.attributes.toList

/-- Each of some instances once, in order. -/
def distinct (instances : List Instance) : List Instance :=
  instances.eraseDups.mergeSort fun x y => (order x y).isLE

end Instance

end ServiceDiscovery
