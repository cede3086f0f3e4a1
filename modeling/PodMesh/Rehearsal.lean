import PodMesh.Prober

/-!
# Rehearsed probers

A prober that answers by a script: a list of rules, each of which says which questions
it answers, with what, and how often. It serves to rehearse a check without a cluster.
-/

namespace PodMesh.Rehearsal

/-- The questions that a rule answers. What is left out may be anything. -/
structure Condition where
  source : Option String := none
  container : Option String := none
  address : Option String := none
  protocol : Option Protocol := none
  port : Option UInt16 := none
  check : Option Check := none
  deriving DecidableEq, Repr

/-- Does a condition cover a question? -/
def Condition.covers (c : Condition) (t : Target) : Bool :=
  c.source.all (· = t.source.text) && c.container.all (· = t.container) &&
    c.address.all (· = t.address) && c.protocol.all (· = t.protocol) &&
    c.port.all (· = t.port) && c.check.all (· = t.check)

/-- What a rule answers with. What is left out is as in the answer of a prober without rules. -/
structure Reply where
  connected : Option Bool := none
  command : Option String := none
  endpoint : Option String := none
  rate : Option Rate := none
  error : Option String := none
  deriving DecidableEq, Repr

/-- A rule of the script. -/
structure Rule where
  condition : Condition := {}
  /-- How often the rule still answers; without a limit it always does. -/
  times : Option Nat := none
  reply : Reply := {}
  /-- The question kills whoever asks it. -/
  dies : Bool := false
  deriving DecidableEq, Repr

def Rule.isLive (r : Rule) : Bool := r.times ≠ some 0

/-- The rule after it answered once more. -/
def Rule.used (r : Rule) : Rule := { r with times := r.times.map (· - 1) }

/-- The reading that a reply to a question gives. -/
def Reply.reading (r : Reply) (t : Target) : Reading :=
  { connected := r.connected.getD true
    command := r.command.getD ("connect " ++ t.address ++ ":" ++ decimal t.port.toNat)
    endpoint := r.endpoint
    rate := r.rate
    error := r.error.map .reported }

/-- The answer of the first live rule that covers a question, and the script after it. -/
def answer (t : Target) : List Rule → Answer × List Rule
  | [] => (.reading (Reply.reading {} t) [], [])
  | r :: rest =>
    if r.isLive && r.condition.covers t then
      (if r.dies then .death else .reading (r.reply.reading t) [], r.used :: rest)
    else
      let (a, rest) := answer t rest
      (a, r :: rest)

/-- The prober whose memory is the script. -/
def prober : Prober (List Rule) := { ask := fun rules t => answer t rules }

end PodMesh.Rehearsal
