import Mathlib.Data.List.Chain
import Mathlib.Data.List.Count

set_option autoImplicit false

namespace Retrying

variable {α μ : Type}

structure Round (α μ : Type) where
  -- What is committed when the round begins and when it ends.
  before : Option α
  after : Option α
  published : List μ
  succeeded : Bool

namespace Round

def commits (round : Round α μ) : Bool :=
  round.before.isNone && round.after.isSome

inductive Does (message : α → μ) : Round α μ → Prop where
  | stops (committed : Option α) : Does message ⟨committed, committed, [], false⟩
  | publishes (committed : α) (succeeded : Bool) :
      Does message ⟨some committed, some committed, [message committed], succeeded⟩
  | commits (committed : α) : Does message ⟨none, some committed, [], false⟩
  | completes (committed : α) (succeeded : Bool) :
      Does message ⟨none, some committed, [message committed], succeeded⟩

variable {message : α → μ} {round : Round α μ}

theorem Does.of_stopped (same : round.after = round.before) (silent : round.published = [])
    (failed : round.succeeded = false) : round.Does message := by
  obtain ⟨before, after, published, succeeded⟩ := round
  cases same
  cases silent
  cases failed
  exact .stops before

theorem Does.of_committed {committed : α} (after : round.after = some committed)
    (before : round.before = some committed ∨ round.before = none)
    (told : round.published = [] ∧ round.succeeded = false ∨
      round.published = [message committed]) : round.Does message := by
  obtain ⟨first, last, published, succeeded⟩ := round
  cases after
  rcases before with rfl | rfl
  · rcases told with ⟨rfl, rfl⟩ | rfl
    · exact .stops _
    · exact .publishes committed succeeded
  · rcases told with ⟨rfl, rfl⟩ | rfl
    · exact .commits committed
    · exact .completes committed succeeded

theorem Does.kept (does : round.Does message) {committed : α}
    (before : round.before = some committed) : round.after = some committed := by
  cases does with
  | stops => exact before
  | publishes => exact before
  | commits => cases before
  | completes => cases before

theorem Does.message_eq (does : round.Does message) {sent : μ} (member : sent ∈ round.published) :
    ∃ committed, round.after = some committed ∧ sent = message committed := by
  cases does with
  | stops => cases member
  | publishes committed => exact ⟨committed, rfl, List.mem_singleton.mp member⟩
  | commits => cases member
  | completes committed => exact ⟨committed, rfl, List.mem_singleton.mp member⟩

theorem Does.completed (does : round.Does message) (succeeded : round.succeeded = true) :
    round.after.isSome ∧ round.published ≠ [] := by
  cases does with
  | stops => cases succeeded
  | publishes => exact ⟨rfl, by simp⟩
  | commits => cases succeeded
  | completes => exact ⟨rfl, by simp⟩

end Round

theorem length_flatMap_eq_countP {σ τ : Type} {items : List σ} {adds : σ → List τ} {counted : σ → Bool}
    (each : ∀ item ∈ items, (adds item).length = if counted item then 1 else 0) :
    (items.flatMap adds).length = items.countP counted := by
  induction items with
  | nil => rfl
  | cons item rest ih =>
    rw [List.flatMap_cons, List.length_append, List.countP_cons, each item List.mem_cons_self,
      ih fun later member => each later (List.mem_cons_of_mem _ member)]
    exact Nat.add_comm _ _

theorem flatMap_eq_replicate {σ τ : Type} {items : List σ} {adds : σ → List τ} {counted : σ → Bool}
    {value : τ} (each : ∀ item ∈ items, adds item = if counted item then [value] else []) :
    items.flatMap adds = List.replicate (items.countP counted) value := by
  induction items with
  | nil => rfl
  | cons item rest ih =>
    rw [List.flatMap_cons, List.countP_cons, each item List.mem_cons_self,
      ih fun later member => each later (List.mem_cons_of_mem _ member)]
    split <;> simp [List.replicate_succ]

/-- Each round finds what the round before it has left. -/
inductive Rounds (message : α → μ) : Option α → List (Round α μ) → Option α → Prop where
  | nil (committed : Option α) : Rounds message committed [] committed
  | cons {round : Round α μ} {rest : List (Round α μ)} {last : Option α} :
      round.Does message → Rounds message round.after rest last →
      Rounds message round.before (round :: rest) last

namespace Rounds

variable {message : α → μ} {first last : Option α} {rounds : List (Round α μ)}

theorem kept (made : Rounds message first rounds last) {committed : α}
    (before : first = some committed) : last = some committed := by
  induction made with
  | nil => exact before
  | cons does _ ih => exact ih (does.kept before)

theorem count_commits (made : Rounds message first rounds last) :
    rounds.countP Round.commits = if first = none ∧ last ≠ none then 1 else 0 := by
  induction made with
  | nil committed => cases committed <;> simp
  | @cons round rest last does made ih =>
    rw [List.countP_cons, ih]
    cases after : round.after with
    | some committed =>
      rw [made.kept after]
      cases before : round.before <;> simp [Round.commits, before, after]
    | none =>
      cases before : round.before with
      | some committed =>
        rw [does.kept before] at after
        cases after
      | none => simp [Round.commits, after]

theorem message_eq (made : Rounds message first rounds last) {round : Round α μ} {sent : μ}
    (member : round ∈ rounds) (published : sent ∈ round.published) :
    ∃ committed, last = some committed ∧ sent = message committed := by
  induction made with
  | nil => cases member
  | cons does made ih =>
    rcases List.mem_cons.mp member with rfl | later
    · obtain ⟨committed, after, same⟩ := does.message_eq published
      exact ⟨committed, made.kept after, same⟩
    · exact ih later

/-- When a round has succeeded, the commit is done and a message is published. -/
theorem completed (made : Rounds message first rounds last) {round : Round α μ}
    (member : round ∈ rounds) (succeeded : round.succeeded = true) :
    last ≠ none ∧ round.published ≠ [] := by
  induction made with
  | nil => cases member
  | cons does made ih =>
    rcases List.mem_cons.mp member with rfl | later
    · obtain ⟨present, published⟩ := does.completed succeeded
      obtain ⟨committed, after⟩ := Option.isSome_iff_exists.mp present
      exact ⟨by simp [made.kept after], published⟩
    · exact ih later

theorem committed (made : Rounds message first rounds last) {round : Round α μ}
    (member : round ∈ rounds) (present : round.after ≠ none) : last ≠ none := by
  induction made with
  | nil => cases member
  | cons does made ih =>
    rcases List.mem_cons.mp member with rfl | later
    · obtain ⟨committed, after⟩ := Option.ne_none_iff_exists'.mp present
      simp [made.kept after]
    · exact ih later

theorem of_chain (does : ∀ round ∈ rounds, round.Does message)
    (chain : rounds.IsChain fun round later => later.before = round.after)
    (head : ∀ round ∈ rounds.head?, round.before = first) :
    ∃ last, Rounds message first rounds last := by
  induction rounds generalizing first with
  | nil => exact ⟨first, .nil first⟩
  | cons round rest ih =>
    obtain rfl : round.before = first := head round rfl
    have next : ∀ later ∈ rest.head?, later.before = round.after := by
      cases rest with
      | nil => nofun
      | cons later rest =>
        rintro _ ⟨⟩
        exact (List.isChain_cons_cons.mp chain).1
    obtain ⟨last, made⟩ := ih (fun later member => does later (List.mem_cons_of_mem _ member))
      chain.tail next
    exact ⟨last, .cons (does round List.mem_cons_self) made⟩

end Rounds

end Retrying
