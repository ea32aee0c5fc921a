import Mathlib.Data.Nat.Notation
import Mathlib.Logic.Relation

namespace RingBuffer

variable {S L H : Type}

def fill (writes : List (S → S)) (c : S) : S := writes.foldl (fun c w ↦ w c) c

/-- A ring of reused slots between a producer and a handler. The producer fills one slot for each
of its jobs; a call of the handler loads its slot at each of its steps, until it answers a new
handler state, and then clears the slot. -/
structure Design (S L H : Type) where
  size : ℕ
  size_pos : 0 < size
  empty : S
  jobs : List (List (S → S))
  clears : List (S → S)
  cleared : ∀ job ∈ jobs, fill clears (fill job empty) = empty
  enter : H → L
  advance : L → S → Option (L ⊕ H)

inductive Phase (S L H : Type)
  | idle (h : H)
  | busy (l : L) (loads : List S)
  | clearing (h : H) (rest : List (S → S))

/-- `claimed` holds the writes that the producer still has to make to the slot it has claimed, and
`past` what each finished call of the handler has loaded. -/
structure State (S L H : Type) where
  slots : ℕ → S
  published : ℕ := 0
  claimed : Option (List (S → S)) := none
  handled : ℕ := 0
  handler : Phase S L H
  past : List (List S) := []

def modify (slots : ℕ → S) (i : ℕ) (w : S → S) : ℕ → S := fun j ↦ if j = i then w (slots j) else slots j

namespace Design

variable (d : Design S L H)

def init (h₀ : H) : State S L H := { slots := fun _ ↦ d.empty, handler := .idle h₀ }

def produce (s : State S L H) : Option (State S L H) :=
  match s.claimed with
  | none =>
    if s.published < s.handled + d.size then
      d.jobs[s.published]?.map fun job ↦ { s with claimed := some job }
    else none
  | some (w :: rest) =>
    some { s with slots := modify s.slots (s.published % d.size) w, claimed := some rest }
  | some [] => some { s with claimed := none, published := s.published + 1 }

def consume (s : State S L H) : Option (State S L H) :=
  match s.handler with
  | .idle h => if s.handled < s.published then some { s with handler := .busy (d.enter h) [] } else none
  | .busy l loads =>
    let c := s.slots (s.handled % d.size)
    (d.advance l c).map fun
      | .inl l' => { s with handler := .busy l' (loads ++ [c]) }
      | .inr h => { s with handler := .clearing h d.clears, past := s.past ++ [loads ++ [c]] }
  | .clearing h (w :: rest) =>
    some { s with slots := modify s.slots (s.handled % d.size) w, handler := .clearing h rest }
  | .clearing h [] => some { s with handler := .idle h, handled := s.handled + 1 }

end Design

inductive Turn
  | producer
  | handler
deriving DecidableEq, Repr

def Design.step (d : Design S L H) (s : State S L H) : Turn → Option (State S L H)
  | .producer => d.produce s
  | .handler => d.consume s

def Design.run (d : Design S L H) (s : State S L H) (turns : List Turn) : Option (State S L H) :=
  turns.foldlM d.step s

def State.reads (s : State S L H) : List (List S) :=
  s.past ++ match s.handler with
    | .busy _ loads => [loads]
    | _ => []

def Design.Calls (d : Design S L H) (c : S) (h h' : H) : Prop :=
  ∃ l, Relation.ReflTransGen (fun l l' ↦ d.advance l c = some (.inl l')) (d.enter h) l ∧
    d.advance l c = some (.inr h')

inductive Design.CallsAll (d : Design S L H) (h₀ : H) : List S → H → Prop
  | nil : CallsAll d h₀ [] h₀
  | snoc {cs : List S} {c : S} {h h' : H} :
      CallsAll d h₀ cs h → d.Calls c h h' → CallsAll d h₀ (cs ++ [c]) h'

def Design.events (d : Design S L H) : List S := d.jobs.map fun job ↦ fill job d.empty

end RingBuffer
