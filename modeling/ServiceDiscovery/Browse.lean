import ServiceDiscovery.Address.Parser
import ServiceDiscovery.Query

/-!
# The browse command

`Browse.run` is what the command line does with its arguments: a service type, a
domain, a window in milliseconds and the address of an interface, of which any
number may be left out from the end.
-/

namespace ServiceDiscovery

namespace Browse

/-- Reads an unsigned number of 64 bits: decimal digits, perhaps behind a plus
sign. -/
def parseWindow? (text : String) : Option Nat :=
  let digits : List Char :=
    match text.toList with
    | '+' :: rest => rest
    | all => all
  let value := ofDigits 10 (digits.map fun c => c.toNat - '0'.toNat)
  if digits ≠ [] ∧ digits.all Char.isDigit ∧ value < 0x10000000000000000 then some value else none

/-- What an argument stands for, the default if it is missing. -/
def argument {α : Type} (default : α) (parse? : String → Option α) : Option String → Option α
  | none => some default
  | some text => parse? text

/-- The query that the arguments describe. Arguments beyond the fourth are of no
account. -/
def query? (arguments : List String) : Option Query := do
  let type ← (ServiceType.parse (arguments[0]?.getD "_http._tcp")).toOption
  let domain ← (Domain.parse (arguments[1]?.getD "local.")).toOption
  let query : Query := { type, domain }
  let window ← argument query.window parseWindow? arguments[2]?
  let interface ← argument none (fun text => (Address.parse? text).map some) arguments[3]?
  return { query with window, interface }

def report (query : Query) (instances : List Instance) : String :=
  String.join
    (s!"{instances.length} instances of {query.question.name}\n" ::
      instances.map fun found => s!"  {found.display}\n")

structure Outcome where
  exitCode : UInt32
  output : String
  deriving DecidableEq, Repr

def succeeded (output : String) : Outcome where
  exitCode := 0
  output := output

/-- The command gave up, without any output. -/
def failed : Outcome where
  exitCode := 101
  output := ""

/-- Runs the command over the groups that can be joined, against what arrives there.
It fails if an argument is refused and if the discovery fails. -/
def run (joins : Option Address → Family → Bool) (arrivals : List Discovery.Arrival)
    (arguments : List String) : Outcome :=
  match query? arguments with
  | none => failed
  | some query =>
    match query.run joins arrivals with
    | .ok instances => succeeded (report query instances)
    | .error _ => failed

end Browse

end ServiceDiscovery
