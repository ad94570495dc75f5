import DocQuery.Pattern.Form

/-!
# Terms

Patterns as they are written. A term says what it matches, how deeply it is
nested and what its normal form is. Groups are kept even where they change
nothing, since they count as nesting.

## Main definitions

* `Term`: A pattern as it is written.
* `Term.pattern`: What a term matches.
* `Term.depth`: How deeply a term is nested.
* `Term.form`: The normal form of a term.

## Theorems

* `pattern_sequence`: A row matches what its parts match one after the other.
* `depth_sequence_le`: A row of parts without nesting is one level.
-/

namespace DocQuery

namespace Pattern

/-- A pattern as it is written. -/
inductive Term where
  | empty
  /-- Flags that are set. -/
  | directive
  /-- A character, with those that stand for it as well. Sets are read with the
      classes of ASCII or not. -/
  | literal (ascii : Bool) (s : CharSet)
  /-- A set, which takes so many levels of brackets. -/
  | set (levels : Nat) (ascii : Bool) (s : CharSet)
  | look (l : Look)
  | group (keepsPlace : Bool) (t : Term)
  | loop (t : Term) (least : Nat) (most : Option Nat) (greedy : Bool)
  | seq (t u : Term)
  | alt (t u : Term)

/-- What joins a term to those beside it. -/
inductive Joint where
  | row
  | choice
deriving DecidableEq

namespace Term

/-- Terms one after the other. -/
def sequence : List Term → Term
  | [] => empty
  | [t] => t
  | t :: ts => seq t (sequence ts)

/-- One of several terms. -/
def choice : List Term → Term
  | [] => empty
  | [t] => t
  | t :: ts => alt t (choice ts)

/-- What a term matches. -/
def pattern : Term → Pattern
  | empty | directive => .empty
  | literal _ s => .set s
  | set _ _ s => .set s
  | look l => .look l
  | group _ t => t.pattern
  | loop t least most _ => .loop t.pattern least most
  | seq t u => .seq t.pattern u.pattern
  | alt t u => .alt t.pattern u.pattern

/-- How deeply a term is nested, where `joint` joins it to the terms before
    it. All terms of a row or of a choice are on one level. -/
def depthIn (joint : Option Joint) : Term → Nat
  | empty | directive | literal .. | look _ => 0
  | set levels _ _ => levels
  | group _ t => t.depthIn none + 1
  | loop t _ _ _ => t.depthIn none + 1
  | seq t u =>
    max (t.depthIn none) (u.depthIn (some .row)) + if joint = some .row then 0 else 1
  | alt t u =>
    max (t.depthIn none) (u.depthIn (some .choice)) + if joint = some .choice then 0 else 1

/-- How deeply a term is nested. -/
def depth (t : Term) : Nat := t.depthIn none

/-- The number of rows and choices in a term. -/
def joints : Term → Nat
  | empty | directive | literal .. | set .. | look _ => 0
  | group _ t | loop t _ _ _ => t.joints
  | seq t u | alt t u => t.joints + u.joints + 1

/-- The normal forms of the terms that a term is a choice of, from which
    common parts are taken out so many times at most. -/
def forms (times : Nat) : Term → List Form
  | empty | directive => [.empty]
  | literal ascii s | set _ ascii s => [.ofSet ascii s.bounds]
  | look l => [.look l]
  | group keepsPlace t =>
    let f := Form.choiceIn times (t.forms times)
    [if keepsPlace then .group f else f]
  | loop t least most greedy => [.repeated (.choiceIn times (t.forms times)) least most greedy]
  | seq t u => [.append (.choiceIn times (t.forms times)) (.choiceIn times (u.forms times))]
  | alt t u => .choiceIn times (t.forms times) :: u.forms times

/-- The normal form of a term. -/
def form (t : Term) : Form :=
  -- No common part has more parts than the term.
  Form.choiceIn (t.joints + 1) (t.forms (t.joints + 1))

theorem pattern_sequence (t : Term) (ts : List Term) (h : ts ≠ []) :
    (sequence (t :: ts)).pattern = .seq t.pattern (sequence ts).pattern := by
  cases ts with
  | nil => exact absurd rfl h
  | cons u us => rfl

theorem depthIn_sequence (ts : List Term) (h : ∀ t ∈ ts, ∀ joint, t.depthIn joint = 0) :
    (sequence ts).depthIn (some .row) = 0 := by
  induction ts with
  | nil => rfl
  | cons t ts ih =>
      have ht := h t (List.mem_cons_self ..)
      cases ts with
      | nil => exact ht (some .row)
      | cons u us =>
          rw [sequence, depthIn, ht none, ih fun t hm => h t (List.mem_cons_of_mem _ hm)]
          · rfl
          · exact List.cons_ne_nil u us

theorem depth_sequence_le (ts : List Term) (h : ∀ t ∈ ts, ∀ joint, t.depthIn joint = 0) :
    (sequence ts).depth ≤ 1 := by
  cases ts with
  | nil => exact Nat.zero_le 1
  | cons t ts =>
      have ht := h t (List.mem_cons_self ..)
      cases ts with
      | nil =>
          rw [sequence, depth, ht none]
          exact Nat.zero_le 1
      | cons u us =>
          rw [sequence, depth, depthIn, ht none,
            depthIn_sequence (u :: us) fun t hm => h t (List.mem_cons_of_mem _ hm)]
          · decide
          · exact List.cons_ne_nil u us

end Term

end Pattern

end DocQuery
