import ServiceDiscovery.Error

/-!
# Type and class codes

Records have a `RecordType` and a `RecordClass`, questions a `QueryType` and a
`QueryClass`. Each of them has a code on the wire and a mnemonic; a code without
a meaning here is refused with a cause that names it.
-/

namespace ServiceDiscovery

/-- The bit of a class field that asks for a unicast response in a question, and
that announces in a record that older ones are to be forgotten. It is no part of
the class. -/
def classTopBit : UInt16 := 0x8000

/-- The record types that describe a service. -/
inductive RecordType where
  | a
  | ptr
  | txt
  | aaaa
  | srv
  deriving DecidableEq, Repr

namespace RecordType

def code : RecordType → UInt16
  | a => 1
  | ptr => 12
  | txt => 16
  | aaaa => 28
  | srv => 33

def mnemonic : RecordType → String
  | a => "A"
  | ptr => "PTR"
  | txt => "TXT"
  | aaaa => "AAAA"
  | srv => "SRV"

def ofCode (code : UInt16) : Except WireError RecordType :=
  match code with
  | 1 => .ok a
  | 12 => .ok ptr
  | 16 => .ok txt
  | 28 => .ok aaaa
  | 33 => .ok srv
  | _ => .error (.unsupportedRecordType code)

end RecordType

/-- What a question asks for: records of one type, or of any. -/
inductive QueryType where
  | a
  | ns
  | cname
  | soa
  | mb
  | mg
  | mr
  | null
  | wks
  | ptr
  | hinfo
  | minfo
  | mx
  | txt
  | aaaa
  | srv
  | any
  deriving DecidableEq, Repr

namespace QueryType

def code : QueryType → UInt16
  | a => 1
  | ns => 2
  | cname => 5
  | soa => 6
  | mb => 7
  | mg => 8
  | mr => 9
  | null => 10
  | wks => 11
  | ptr => 12
  | hinfo => 13
  | minfo => 14
  | mx => 15
  | txt => 16
  | aaaa => 28
  | srv => 33
  | any => 255

def mnemonic : QueryType → String
  | a => "A"
  | ns => "NS"
  | cname => "CNAME"
  | soa => "SOA"
  | mb => "MB"
  | mg => "MG"
  | mr => "MR"
  | null => "NULL"
  | wks => "WKS"
  | ptr => "PTR"
  | hinfo => "HINFO"
  | minfo => "MINFO"
  | mx => "MX"
  | txt => "TXT"
  | aaaa => "AAAA"
  | srv => "SRV"
  | any => "ANY"

def ofCode (code : UInt16) : Except WireError QueryType :=
  match code with
  | 1 => .ok a
  | 2 => .ok ns
  | 5 => .ok cname
  | 6 => .ok soa
  | 7 => .ok mb
  | 8 => .ok mg
  | 9 => .ok mr
  | 10 => .ok null
  | 11 => .ok wks
  | 12 => .ok ptr
  | 13 => .ok hinfo
  | 14 => .ok minfo
  | 15 => .ok mx
  | 16 => .ok txt
  | 28 => .ok aaaa
  | 33 => .ok srv
  | 255 => .ok any
  | _ => .error (.invalidQueryType code)

end QueryType

/-- The class of a record, which can only be the internet. -/
inductive RecordClass where
  | internet
  deriving DecidableEq, Repr

namespace RecordClass

def code : RecordClass → UInt16
  | internet => 1

def mnemonic : RecordClass → String
  | internet => "IN"

/-- The class with a given code, its top bit taken off already. -/
def ofCode (code : UInt16) : Except WireError RecordClass :=
  match code with
  | 1 => .ok internet
  | _ => .error (.invalidClass code)

end RecordClass

inductive QueryClass where
  | internet
  | any
  deriving DecidableEq, Repr

namespace QueryClass

def code : QueryClass → UInt16
  | internet => 1
  | any => 255

def mnemonic : QueryClass → String
  | internet => "IN"
  | any => "Any"

/-- The query class with a given code, its top bit taken off already. -/
def ofCode (code : UInt16) : Except WireError QueryClass :=
  match code with
  | 1 => .ok internet
  | 255 => .ok any
  | _ => .error (.invalidQueryClass code)

end QueryClass

theorem RecordType.ofCode_code (type : RecordType) : RecordType.ofCode type.code = .ok type := by
  cases type <;> rfl

theorem QueryType.ofCode_code (type : QueryType) : QueryType.ofCode type.code = .ok type := by
  cases type <;> rfl

theorem RecordClass.ofCode_code (cls : RecordClass) : RecordClass.ofCode cls.code = .ok cls := by
  cases cls; rfl

theorem QueryClass.ofCode_code (cls : QueryClass) : QueryClass.ofCode cls.code = .ok cls := by
  cases cls <;> rfl

end ServiceDiscovery
