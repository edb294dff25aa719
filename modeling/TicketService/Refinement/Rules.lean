import TicketService.Refinement.Change

set_option autoImplicit false

namespace TicketService

open Interleaving Relational Relation

def Known (g : Global) (row : Ticket) : Prop :=
  Committed g row.id.call ∧
    ∀ other, g.world.ticket row.id = some other → other.identity = row.identity

structure Rooted (g : Global) : Prop where
  numbered : ∀ i, Committed g i → i < g.calls.length
  tickets : ∀ row ∈ g.world.store.tickets.rows, Committed g row.id.call

def Returned (i : Nat) (_ : Reply) (g : Global) : Prop :=
  ∀ call, g.calls[i]? = some call → call.Answered g i

variable {platform : Platform}

def contract (platform : Platform) : Contract statements World Tx Call Exn Reply where
  frame := Protected
  guar := Change platform
  inv := Rooted
  returns := Returned
  throws _ _ _ := True

structure Extends (g g' : Global) : Prop where
  calls : ∀ (j : Nat) (call : Call), g.calls[j]? = some call → g'.calls[j]? = some call
  history : ∀ e ∈ g.history, e ∈ g'.history
  known : ∀ row, Known g row → Known g' row
  gone : ∀ id, Committed g id.call → g.world.ticket id = none → g'.world.ticket id = none

theorem Extends.refl (g : Global) : Extends g g :=
  ⟨fun _ _ => id, fun _ => id, fun _ => id, fun _ _ => id⟩

theorem Extends.trans {g₁ g₂ g₃ : Global} (first : Extends g₁ g₂) (second : Extends g₂ g₃) :
    Extends g₁ g₃ where
  calls j call present := second.calls j call (first.calls j call present)
  history e member := second.history e (first.history e member)
  known row before := second.known row (first.known row before)
  gone id committed absent := by
    obtain ⟨tx, w, member⟩ := committed
    exact second.gone id ⟨tx, w, first.history _ member⟩ (first.gone id ⟨tx, w, member⟩ absent)

theorem Extends.committed {g g' : Global} (moved : Extends g g') {i : Nat}
    (committed : Committed g i) : Committed g' i := by
  obtain ⟨tx, w, member⟩ := committed
  exact ⟨tx, w, moved.history _ member⟩

theorem Extends.seen {g g' : Global} (moved : Extends g g') {i : Nat} {stmt : Stmt}
    {result : stmt.Res} {P : World → Prop} (seen : Seen g i stmt result P) :
    Seen g' i stmt result P := by
  obtain ⟨w, member, holds⟩ := seen
  exact ⟨w, moved.history _ member, holds⟩

theorem Seen.imp {g : Global} {i : Nat} {stmt : Stmt} {result : stmt.Res} {P R : World → Prop}
    (seen : Seen g i stmt result P) (weaker : ∀ w, P w → R w) : Seen g i stmt result R := by
  obtain ⟨w, member, holds⟩ := seen
  exact ⟨w, member, weaker w holds⟩

theorem Call.Answered.extends {g g' : Global} {i : Nat} {call : Call} (answered : call.Answered g i)
    (moved : Extends g g') : call.Answered g' i := by
  cases call with
  | activateDevice input actorId => exact moved.committed answered
  | userAccessChanged payload =>
    rcases answered with ⟨result, stored⟩ | ⟨existing, read, newer⟩
    · exact .inl ⟨result, moved.seen stored⟩
    · exact .inr ⟨existing, moved.seen read, newer⟩
  | _ => trivial

theorem Tx.row_before {tx : Tx} {s : Store} {row : Ticket}
    (present : row ∈ (tx.apply s).tickets.rows) :
    (∃ before ∈ s.tickets.rows, before.identity = row.identity) ∨
      ∃ inserted, .insertTicket inserted ∈ tx.writes ∧ inserted.identity = row.identity := by
  obtain ⟨writes⟩ := tx
  induction writes generalizing s with
  | nil => exact .inl ⟨row, present, rfl⟩
  | cons write rest ih =>
    rcases ih present with ⟨before, there, same⟩ | ⟨inserted, member, same⟩
    · rcases Write.row_before there with ⟨first, there, same'⟩ | rfl
      · exact .inl ⟨first, there, same'.trans same⟩
      · exact .inr ⟨before, by simp, same⟩
    · exact .inr ⟨inserted, by simp [member], same⟩

theorem Commits.inserted {g : Global} {i : Nat} {tx : Tx} (commits : Commits platform g i tx)
    {row : Ticket} (member : .insertTicket row ∈ tx.writes) :
    row.id = ⟨i, 0⟩ ∧ g.world.taken row = false := by
  cases commits with
  | created context data createdAt fact called untaken =>
    simp only [List.mem_cons, Write.insertTicket.injEq, reduceCtorEq, List.not_mem_nil, or_false]
      at member
    rw [member]
    exact ⟨rfl, untaken⟩
  | _ => simp at member

structure Created (g : Global) (i : Nat) (row : Ticket) : Prop where
  first : ¬Committed g i
  id : row.id = ⟨i, 0⟩
  untaken : ∃ created, g.world.taken created = false ∧ created.identity = row.identity

theorem Created.uncommitted {g : Global} {i : Nat} {row : Ticket} (created : Created g i row)
    {id : Uuid} (key : row.id = id) : ¬Committed g id.call := by
  rw [← key, created.id]
  exact created.first

theorem Change.row_before {actor : Option Nat} {g g' : Global}
    (change : Change platform actor g g') {row : Ticket} {id : Uuid}
    (present : g'.world.ticket id = some row) :
    (∃ before, g.world.ticket id = some before ∧ before.identity = row.identity) ∨
      ∃ i, actor = some i ∧ Created g i row := by
  cases change with
  | invoke call => exact .inl ⟨row, present, rfl⟩
  | environ action => exact .inl ⟨row, by cases action <;> exact present, rfl⟩
  | stmt i stmt result w tx tx' executed =>
    left
    rcases exec_cases executed with ⟨-, tickets, -⟩ | ⟨rfl, -⟩ | ⟨target, data, old, -, there, -, rfl⟩
    · exact ⟨row, by simpa [World.ticket, tickets] using present, rfl⟩
    · exact ⟨row, present, rfl⟩
    · have written : (g.world.store.putTicket target (data old.toTicketState)
          g.world.clock).ticket id = some row := present
      rw [Store.ticket_putTicket] at written
      split at written
      · obtain ⟨before, found, rfl⟩ := Option.map_eq_some_iff.mp written
        exact ⟨before, found, rfl⟩
      · exact ⟨row, written, rfl⟩
  | commit i tx commits first =>
    have member : row ∈ (tx.apply g.world.store).tickets.rows := Table.mem_of_get? present
    have key : row.id = id := Table.key_of_get? present
    rcases Tx.row_before member with ⟨before, there, alike⟩ | ⟨inserted, written, alike⟩
    · have same : before.id = id := (Ticket.id_of_identity alike).trans key
      exact .inl ⟨before, same ▸ Store.ticket_mem.mp there, alike⟩
    · obtain ⟨own, untaken⟩ := commits.inserted written
      have id : row.id = ⟨i, 0⟩ := (Ticket.id_of_identity alike).symm.trans own
      exact .inr ⟨i, rfl, first, id, inserted, untaken, alike⟩
  | rollback i => exact .inl ⟨row, present, rfl⟩

theorem Change.history_cases {actor : Option Nat} {g g' : Global}
    (change : Change platform actor g g') :
    g'.history = g.history ∨ ∃ e, g'.history = e :: g.history ∧ e.world = g.world := by
  cases change with
  | invoke call => exact .inl rfl
  | environ action => exact .inl rfl
  | stmt i stmt result w tx tx' => exact .inr ⟨_, rfl, rfl⟩
  | commit i tx => exact .inr ⟨_, rfl, rfl⟩
  | rollback i => exact .inr ⟨_, rfl, rfl⟩

theorem Change.history {actor : Option Nat} {g g' : Global} (change : Change platform actor g g') :
    ∀ e ∈ g.history, e ∈ g'.history := by
  intro e member
  rcases change.history_cases with same | ⟨new, added, -⟩
  · rw [same]
    exact member
  · rw [added]
    exact List.mem_cons_of_mem _ member

theorem Change.recorded {actor : Option Nat} {g g' : Global} (change : Change platform actor g g') :
    ∀ e ∈ g'.history, e ∈ g.history ∨ e.world = g.world := by
  intro e member
  rcases change.history_cases with same | ⟨new, added, world⟩
  · rw [same] at member
    exact .inl member
  · rw [added] at member
    rcases List.mem_cons.mp member with rfl | before
    · exact .inr world
    · exact .inl before

theorem Change.extends {actor : Option Nat} {g g' : Global} (change : Change platform actor g g') :
    Extends g g' where
  calls j call present := by
    cases change with
    | invoke call' =>
      simp only [Shared.invoke]
      rw [List.getElem?_append_left (List.getElem?_eq_some_iff.mp present).1]
      exact present
    | environ action => exact present
    | stmt i stmt result w tx tx' => exact present
    | commit i tx => exact present
    | rollback i => exact present
  history := change.history
  known row := by
    rintro ⟨⟨tx, w, member⟩, same⟩
    refine ⟨⟨tx, w, change.history _ member⟩, fun other found => ?_⟩
    rcases change.row_before found with ⟨before, there, alike⟩ | ⟨i, -, created⟩
    · exact alike.symm.trans (same before there)
    · exact absurd ⟨tx, w, member⟩ (created.uncommitted (Table.key_of_get? found))
  gone id committed absent := by
    by_contra present
    obtain ⟨row, found⟩ := Option.ne_none_iff_exists'.mp present
    rcases change.row_before found with ⟨before, there, -⟩ | ⟨i, -, created⟩
    · rw [absent] at there
      cases there
    · exact created.uncommitted (Table.key_of_get? found) committed

theorem Change.rooted {actor : Option Nat} {g g' : Global} (change : Change platform actor g g')
    (rooted : Rooted g) : Rooted g' := by
  have moved := change.extends
  cases change with
  | invoke call =>
    refine ⟨fun i committed => ?_, rooted.tickets⟩
    have := rooted.numbered i committed
    simp only [Shared.invoke, List.length_append, List.length_singleton]
    omega
  | environ action =>
    refine ⟨rooted.numbered, fun row present => rooted.tickets row ?_⟩
    cases action <;> exact present
  | stmt i stmt result w tx tx' executed =>
    constructor
    · rintro j ⟨t, w', member⟩
      exact rooted.numbered j ⟨t, w', by simpa [Shared.record] using member⟩
    · intro row present
      rcases exec_cases executed with ⟨-, tickets, -⟩ | ⟨rfl, -⟩ |
        ⟨id, data, before, -, there, -, rfl⟩
      · exact moved.committed (rooted.tickets row (tickets ▸ present))
      · exact moved.committed (rooted.tickets row present)
      · have written : row ∈ ((Write.putTicket id (data before.toTicketState)
            g.world.clock).apply g.world.store).tickets.rows := present
        rcases Write.row_before written with ⟨old, there, same⟩ | inserted
        · rw [← Ticket.id_of_identity same]
          exact moved.committed (rooted.tickets old there)
        · cases inserted
  | commit i tx commits first =>
    constructor
    · rintro j ⟨t, w, member⟩
      rcases List.mem_cons.mp member with same | before
      · cases same
        exact commits.called
      · exact rooted.numbered j ⟨t, w, before⟩
    · intro row present
      rcases Tx.row_before present with ⟨before, there, same⟩ | ⟨inserted, written, same⟩
      · rw [← Ticket.id_of_identity same]
        exact moved.committed (rooted.tickets before there)
      · rw [← Ticket.id_of_identity same, (commits.inserted written).1]
        exact ⟨tx, g.world, List.mem_cons_self⟩
  | rollback i =>
    constructor
    · rintro j ⟨t, w, member⟩
      exact rooted.numbered j ⟨t, w, by simpa [Shared.rollback] using member⟩
    · intro row present
      exact moved.committed (rooted.tickets row present)

theorem Rooted.known {g : Global} (rooted : Rooted g) {row : Ticket} {id : Uuid}
    (present : g.world.ticket id = some row) : Known g row := by
  have key : row.id = id := Table.key_of_get? present
  refine ⟨rooted.tickets row (Table.mem_of_get? present), fun other found => ?_⟩
  rw [key, present] at found
  cases found
  rfl

def Past (g : Global) : Prop :=
  ∀ e ∈ g.history, ∀ row ∈ e.world.store.tickets.rows, Known g row

theorem Change.past {actor : Option Nat} {g g' : Global} (change : Change platform actor g g')
    (rooted : Rooted g) (past : Past g) : Past g' := by
  intro e member row present
  rcases change.recorded e member with before | same
  · exact change.extends.known row (past e before row present)
  · rw [same] at present
    exact change.extends.known row (rooted.known (Store.ticket_mem.mp present))

theorem Past.read {g : Global} (past : Past g) {i : Nat} {client : Client} {id : Uuid}
    {row : Ticket} (read : Read g i client id row) : Known g row := by
  obtain ⟨w, event, found⟩ := read
  exact past _ event row (Table.mem_of_get? found)

structure Moves (i : Nat) (tx : Option Tx) (g g' : Global) : Prop extends Extends g g' where
  uncommitted : ¬Committed g i → ¬Committed g' i
  guarded : ∀ t ∈ tx, Protected t g.world g'.world

variable {i : Nat} {tx : Option Tx} {g g' : Global} {α β : Type}

theorem Moves.refl (i : Nat) (tx : Option Tx) (g : Global) : Moves i tx g g where
  toExtends := .refl g
  uncommitted := id
  guarded t _ := .refl t g.world

theorem Moves.trans {g₁ g₂ g₃ : Global} (first : Moves i tx g₁ g₂) (second : Moves i tx g₂ g₃) :
    Moves i tx g₁ g₃ where
  toExtends := first.toExtends.trans second.toExtends
  uncommitted := second.uncommitted ∘ first.uncommitted
  guarded t opened l member :=
    .trans (first.guarded t opened l member) (second.guarded t opened l member)

theorem Change.uncommitted {actor : Option Nat} (change : Change platform actor g g')
    (other : actor ≠ some i) (uncommitted : ¬Committed g i) : ¬Committed g' i := by
  rintro ⟨tx, w, member⟩
  cases change with
  | invoke call => exact uncommitted ⟨tx, w, member⟩
  | environ action => exact uncommitted ⟨tx, w, member⟩
  | stmt j stmt result w' tx' tx'' => exact uncommitted ⟨tx, w, by simpa [Shared.record] using member⟩
  | commit j tx' =>
    rcases List.mem_cons.mp member with same | before
    · cases same
      exact other rfl
    · exact uncommitted ⟨tx, w, before⟩
  | rollback j => exact uncommitted ⟨tx, w, by simpa [Shared.rollback] using member⟩

theorem Moves.of_rely (rely : (contract platform).Rely i tx g g') : Moves i tx g g' := by
  induction rely with
  | refl => exact .refl i tx g
  | tail _ last ih =>
    obtain ⟨actor, other, change, framed⟩ := last
    exact ih.trans ⟨Change.extends change, Change.uncommitted change other, framed⟩

theorem Moves.weaken {t t' : Tx} (fewer : ∀ l ∈ t.locks, l ∈ t'.locks)
    (moved : Moves i (some t') g g') : Moves i (some t) g g' where
  toExtends := moved.toExtends
  uncommitted := moved.uncommitted
  guarded := by
    rintro _ ⟨⟩ l member
    exact moved.guarded t' rfl l (fewer l member)

theorem Moves.unlocked {t : Tx} (moved : Moves i (some t) g g') : Moves i (some ⟨[]⟩) g g' :=
  moved.weaken (by simp [Tx.locks])

theorem Moves.of_record {stmt : Stmt} {result : stmt.Res} {w : World} {tx' tx'' : Option Tx}
    (executed : exec platform stmt g.world tx' = some (result, w, tx''))
    (issued : Issued platform g i stmt) (guarded : ∀ t ∈ tx, Protected t g.world w) :
    Moves i tx g (g.record i stmt result w) where
  toExtends := Change.extends (.stmt i stmt result w tx' tx'' executed issued)
  uncommitted := by
    rintro uncommitted ⟨t, w', member⟩
    exact uncommitted ⟨t, w', by simpa [Shared.record] using member⟩
  guarded := guarded

abbrev Safe (platform : Platform) (i : Nat) (Q : α → Option Tx → Global → Prop) (p : Program α)
    (tx : Option Tx) (g : Global) : Prop :=
  (contract platform).Safe (engine platform) i Q p tx g

section Rules

variable {Q : α → Option Tx → Global → Prop} {stmt : Stmt}

theorem Safe.done {value : α} (post : ∀ later, Moves i tx g later → Q value tx later) :
    Safe platform i Q (.done value) tx g :=
  fun later rely => post later (.of_rely rely)

theorem Safe.throw (error : Exn) : Safe platform i Q (.throw error) tx g := by
  cases tx with
  | none => exact fun _ _ => trivial
  | some tx => exact fun _ _ _ => ⟨.rollback i, fun _ _ => trivial⟩

theorem Safe.issue {Q : stmt.Res → Option Tx → Global → Prop}
    (issued : ∀ g', Moves i tx g g' → Issued platform g' i stmt)
    (post : ∀ g' result w tx', Moves i tx g g' → Rooted g' →
      exec platform stmt g'.world tx = some (result, w, tx') →
        ∀ later, Moves i tx' (g'.record i stmt result w) later → Q result tx' later) :
    Safe platform i Q (TicketService.issue stmt) tx g :=
  Contract.Safe.perform
    (fun g' rely rooted result w tx' executed =>
      have moved := Moves.of_rely rely
      ⟨.stmt i stmt result w tx tx' executed (issued g' moved),
        fun later after =>
          post g' result w tx' moved rooted executed later (.of_rely after)⟩)
    fun _ _ => Safe.throw _

def Local (platform : Platform) (tx : Option Tx) (stmt : Stmt) : Prop :=
  ∀ w result w' tx', exec platform stmt w tx = some (result, w', tx') →
    tx' = tx ∧ ∀ t ∈ tx, Protected t w w'

theorem Safe.local {Q : stmt.Res → Option Tx → Global → Prop} (kept : Local platform tx stmt)
    (issued : ∀ g', Moves i tx g g' → Issued platform g' i stmt)
    (post : ∀ g' result w later, Moves i tx g g' → Rooted g' →
      exec platform stmt g'.world tx = some (result, w, tx) → Moves i tx g' later →
        Seen later i stmt result (· = g'.world) → Q result tx later) :
    Safe platform i Q (TicketService.issue stmt) tx g :=
  Safe.issue issued fun g' result w tx' moved rooted executed later after => by
    obtain ⟨rfl, guarded⟩ := kept _ _ _ _ executed
    exact post g' result w later moved rooted executed
      (.trans (.of_record executed (issued g' moved) guarded) after)
      (after.toExtends.seen ⟨g'.world, List.mem_cons_self, rfl⟩)

theorem Safe.store {Q : stmt.Res → Option Tx → Global → Prop}
    (unlocked : ∀ t ∈ tx, t.locks = [])
    (kept : ∀ w result w' tx', exec platform stmt w tx = some (result, w', tx') → tx' = tx)
    (issued : ∀ g', Moves i tx g g' → Issued platform g' i stmt)
    (post : ∀ g' result w later, Moves i tx g g' → Rooted g' →
      exec platform stmt g'.world tx = some (result, w, tx) → Moves i tx g' later →
        Seen later i stmt result (· = g'.world) → Q result tx later) :
    Safe platform i Q (TicketService.issue stmt) tx g :=
  Safe.local (fun w result w' tx' executed => ⟨kept w result w' tx' executed, fun t opened l member => by
    rw [unlocked t opened] at member
    cases member⟩) issued post

theorem Safe.query {Q : stmt.Res → Option Tx → Global → Prop} {value : World → stmt.Res}
    (reading : ∀ w, exec platform stmt w tx = some (value w, w, tx))
    (issued : ∀ g', Issued platform g' i stmt)
    (post : ∀ g' later, Moves i tx g g' → Rooted g' → Moves i tx g' later →
      Seen later i stmt (value g'.world) (· = g'.world) → Q (value g'.world) tx later) :
    Safe platform i Q (TicketService.issue stmt) tx g := by
  refine Safe.local (fun w result w' tx' executed => ?_) (fun g' _ => issued g')
    fun g' result w later moved rooted executed after seen => ?_
  · rw [reading] at executed
    cases executed
    exact ⟨rfl, fun t _ => .refl t w⟩
  · rw [reading] at executed
    cases executed
    exact post g' later moved rooted after seen

theorem Safe.write {Q : stmt.Res → Option Tx → Global → Prop} {t : Tx}
    {P : World → stmt.Res → List Write → Prop}
    (writing : ∀ w result w' tx', exec platform stmt w (some t) = some (result, w', tx') →
      w' = w ∧ ∃ added, P w result added ∧ tx' = some ⟨t.writes ++ added⟩)
    (issued : ∀ g', Issued platform g' i stmt)
    (post : ∀ g' result added later, Moves i (some t) g g' → P g'.world result added →
      Moves i (some ⟨t.writes ++ added⟩) g' later → Seen later i stmt result (· = g'.world) →
        Q result (some ⟨t.writes ++ added⟩) later) :
    Safe platform i Q (TicketService.issue stmt) (some t) g :=
  Safe.issue (fun g' _ => issued g') fun g' result w tx' moved _ executed later after => by
    obtain ⟨rfl, added, holds, rfl⟩ := writing _ _ _ _ executed
    exact post g' result added later moved holds
      (.trans (.of_record executed (issued g') fun t _ => .refl t g'.world) after)
      (after.toExtends.seen ⟨g'.world, List.mem_cons_self, rfl⟩)

theorem Safe.mono {Q R : α → Option Tx → Global → Prop} {p : Program α}
    (safe : Safe platform i Q p tx g) (weaker : ∀ value tx g, Q value tx g → R value tx g) :
    Safe platform i R p tx g :=
  Contract.Safe.mono safe weaker

theorem Safe.bind {p : Program α} {f : α → Program β} {Q : β → Option Tx → Global → Prop}
    (safe : Safe platform i (fun value tx g => Safe platform i Q (f value) tx g) p tx g) :
    Safe platform i Q (p >>= f) tx g :=
  Contract.Safe.bind safe

def Ready (platform : Platform) (i : Nat) (tx : Option Tx) (g : Global) : Prop :=
  ∃ t, tx = some t ∧ ¬Committed g i ∧ ∀ later, Moves i tx g later → Commits platform later i t

theorem Safe.transaction {body : Program α}
    (safe : ∀ g', Moves i none g g' →
      Safe platform i (fun _ tx g'' => Ready platform i tx g'') body (some ⟨[]⟩) g')
    (post : ∀ value later, Committed later i → Q value none later) :
    Safe platform i Q (TicketService.transaction body) none g := by
  refine Contract.Safe.transaction (fun g' rely => ?_) fun _ => Safe.throw _
  refine (safe g' (.of_rely rely)).mono ?_
  rintro value tx g'' ⟨t, rfl, first, commits⟩ later rely rooted
  have moved := Moves.of_rely rely
  refine ⟨fun t' opened => ?_, .rollback i⟩
  cases opened
  refine ⟨.commit i t (commits later moved) (moved.uncommitted first), fun last after => ?_⟩
  exact post value last
    ((Moves.of_rely after).toExtends.committed ⟨t, later.world, List.mem_cons_self⟩)

end Rules

end TicketService
