/-!
# A cache of recent answers

The answers to the most recent distinct questions, the latest first, and how often a
question was found among them. A full cache drops the answer that has not been asked
for the longest.

## Main definitions
* `Cache`: answers and counts.
* `Cache.consult`: the answer to a question, from the cache or computed.
-/
namespace CommandAdvisor.Inspection

/-- Answers to questions, the latest first. -/
structure Cache (Question Answer : Type) where
  entries : List (Question × Answer)
  hits : Nat
  misses : Nat

namespace Cache

variable {Question Answer : Type} [DecidableEq Question]

/-- The cache that knows nothing. -/
def empty : Cache Question Answer := ⟨[], 0, 0⟩

instance : Inhabited (Cache Question Answer) := ⟨empty⟩

/-- The number of answers that are known. -/
def size (c : Cache Question Answer) : Nat := c.entries.length

/-- Whether the answer to a question is known. -/
def knows (c : Cache Question Answer) (q : Question) : Bool := (c.entries.lookup q).isSome

/-- The answer to a question and the cache afterwards. -/
def consult (capacity : Nat) (answer : Question → Answer) (c : Cache Question Answer)
    (q : Question) : Answer × Cache Question Answer :=
  match c.entries.lookup q with
  | some a =>
    (a, { c with entries := (q, a) :: c.entries.filter (fun e => e.1 ≠ q), hits := c.hits + 1 })
  | none =>
    let a := answer q
    (a, { c with entries := ((q, a) :: c.entries).take capacity, misses := c.misses + 1 })

omit [DecidableEq Question] in
@[simp] theorem entries_empty : (empty : Cache Question Answer).entries = [] := rfl

/-- Every question is either a hit or a miss. -/
theorem calls_consult (capacity : Nat) (answer : Question → Answer) (c : Cache Question Answer)
    (q : Question) :
    (c.consult capacity answer q).2.hits + (c.consult capacity answer q).2.misses =
      c.hits + c.misses + 1 := by
  unfold consult
  split <;> simp +arith

end Cache

end CommandAdvisor.Inspection
