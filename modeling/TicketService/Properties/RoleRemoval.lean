import TicketService.Properties.ProjectionUpdates
import TicketService.Properties.Reads

set_option autoImplicit false

namespace TicketService

open EventRoleHandler Interleaving Projecting Relational TicketEventRoleResolver

variable {platform : Platform} {c c₁ c₂ : ServiceState} {d removal : Delivery} {ds : List Delivery}
  {eventId userId : Uuid} {T : Time}

def HasRole (platform : Platform) (w : World) (eventId userId : Uuid) : Prop :=
  ∃ role, Answers platform (getRoleForUser userId eventId) w (.ok (some role))

theorem hasRole_iff {w : World} : HasRole platform w eventId userId ↔
    (w.roleRows (eventId, userId)).isSome := by
  have answers : Answers platform (getRoleForUser userId eventId) w
      (.ok ((w.role eventId userId).map (·.role))) := answers_getRoleForUser userId eventId
  have rows : (w.roleRows (eventId, userId)).isSome =
      ((w.role eventId userId).map (·.role)).isSome := by
    simp [World.roleRows]
  rw [rows]
  constructor
  case mp =>
    rintro ⟨role, answered⟩
    obtain ⟨tx', returns⟩ := answered.may w none rfl
    rcases answers.only w none _ tx' w rfl returns with failed | ⟨same, -⟩
    · cases failed
    · rw [← Except.ok.inj same]
      rfl
  case mpr =>
    intro present
    obtain ⟨role, found⟩ := Option.isSome_iff_exists.mp present
    rw [found] at answers
    exact ⟨role, answers⟩

-- The message removes the role that the user has.
def Delivery.removesRole (d : Delivery) (eventId userId : Uuid) : Prop :=
  ∃ e ∈ d.roleEdits, e.key = (eventId, userId) ∧ e.removes = true

def Delivery.grantsRole (d : Delivery) (eventId userId : Uuid) : Prop :=
  ∃ e ∈ d.roleEdits, e.key = (eventId, userId) ∧ e.removes = false

theorem absent_apply {rows : Rows (Uuid × Uuid) EventRoleType} {e : Edit (Uuid × Uuid) EventRoleType}
    {key : Uuid × Uuid} (absent : rows key = none) (removes : e.key = key → e.removes = true) :
    e.apply rows key = none := by
  unfold Edit.apply
  split
  · exact absent
  · by_cases same : e.key = key
    · subst same
      simp [Edit.write, Edit.outcome, removes rfl]
    · simpa [Edit.write, Ne.symm same] using absent

theorem absent_foldl {rows : Rows (Uuid × Uuid) EventRoleType} {key : Uuid × Uuid}
    (edits : List (Edit (Uuid × Uuid) EventRoleType)) (absent : rows key = none)
    (removes : ∀ e ∈ edits, e.key = key → e.removes = true) :
    edits.foldl Edit.apply rows key = none := by
  induction edits generalizing rows with
  | nil => exact absent
  | cons e rest ih =>
    rw [List.forall_mem_cons] at removes
    exact ih (absent_apply absent removes.1) removes.2

theorem granted_absent {rows : Rows (Uuid × Uuid) EventRoleType}
    {e : Edit (Uuid × Uuid) EventRoleType} (absent : rows e.key = none) (keeps : e.removes = false) :
    (e.apply rows e.key).isSome := by
  have kept : e.skipped rows = false := by simp [Edit.skipped, Rows.stamps, absent]
  simp [Edit.apply, kept, Edit.write, Edit.outcome, keeps]

theorem Delivered.grants (delivered : Delivered platform c d c₁) (grants : d.grantsRole eventId userId)
    (absent : ¬HasRole platform c.shared.world eventId userId) :
    HasRole platform c₁.shared.world eventId userId := by
  rw [hasRole_iff, Bool.not_eq_true, Option.isSome_eq_false_iff, Option.isNone_iff_eq_none] at absent
  rw [hasRole_iff, delivered.edits.1]
  obtain ⟨e, member, same, keeps⟩ := grants
  obtain ⟨message, time, writes⟩ := d
  cases message with
  | roleAssigned payload =>
    obtain rfl := List.mem_singleton.mp member
    rw [← same] at absent ⊢
    exact granted_absent absent rfl
  | roleRemoved payload =>
    obtain rfl := List.mem_singleton.mp member
    cases keeps
  | ownerChanged payload =>
    rcases List.mem_append.mp member with old | new
    · obtain ⟨oldOwnerId, -, rfl⟩ := List.mem_map.mp old
      cases keeps
    · obtain rfl := List.mem_singleton.mp new
      simp only [Delivery.roleEdits, List.foldl_append, List.foldl_cons, List.foldl_nil]
      rw [← same] at absent ⊢
      refine granted_absent (absent_foldl _ absent ?_) rfl
      intro e member _
      obtain ⟨oldOwnerId, -, rfl⟩ := List.mem_map.mp member
      rfl
  | _ => cases member

theorem Delivered.ungranted (delivered : Delivered platform c d c₁)
    (absent : ¬HasRole platform c.shared.world eventId userId)
    (ungranted : ¬d.grantsRole eventId userId) :
    ¬HasRole platform c₁.shared.world eventId userId := by
  rw [hasRole_iff, Bool.not_eq_true, Option.isSome_eq_false_iff, Option.isNone_iff_eq_none] at absent
  rw [hasRole_iff, delivered.edits.1, absent_foldl _ absent]
  · simp
  · intro e member same
    by_contra keeps
    exact ungranted ⟨e, member, same, by simpa using keeps⟩

theorem Deliveries.append {ds' : List Delivery} {c' : ServiceState}
    (first : Deliveries platform c ds c₁) (second : Deliveries platform c₁ ds' c') :
    Deliveries platform c (ds ++ ds') c' := by
  induction first with
  | nil => exact second
  | cons delivered _ ih => exact .cons delivered (ih second)

structure Handling (platform : Platform) (c₁ : ServiceState) (ds : List Delivery)
    (c₂ s : ServiceState) (d : Delivery) (s' : ServiceState) : Prop where
  handled : Delivered platform s d s'
  within : ∃ earlier later, ds = earlier ++ d :: later ∧ Deliveries platform c₁ earlier s ∧
    Deliveries platform s' later c₂

def Delivery.olderThan (d : Delivery) (T : Time) : Prop :=
  ∃ occurredAt ∈ d.message.occurredAt, occurredAt < T

structure StaysRemoved (platform : Platform) (eventId userId : Uuid) (T : Time) (removal : Delivery)
    (c₁ : ServiceState) (ds : List Delivery) (c₂ : ServiceState) : Prop where
  older : ∀ s d s', Handling platform c₁ ds c₂ s d s' → d.olderThan T →
    ¬HasRole platform s.shared.world eventId userId →
      ¬HasRole platform s'.shared.world eventId userId
  newer : ∀ earlier later s, ds = earlier ++ later → Deliveries platform c₁ earlier s →
    Deliveries platform s later c₂ → HasRole platform s.shared.world eventId userId →
      ∃ d ∈ removal :: earlier, d.grantsRole eventId userId ∧ ¬d.olderThan T

/-- No message that is older than `T` and gives the user a role finds the user without one. -/
def NoLateGrant (platform : Platform) (eventId userId : Uuid) (T : Time) (c₁ : ServiceState)
    (ds : List Delivery) (c₂ : ServiceState) : Prop :=
  ∀ s d s', Handling platform c₁ ds c₂ s d s' → d.olderThan T → d.grantsRole eventId userId →
    HasRole platform s.shared.world eventId userId

theorem Handling.later {x : ServiceState} {s s' : ServiceState} {first : Delivery}
    (delivered : Delivered platform c₁ first x) (handling : Handling platform x ds c₂ s d s') :
    Handling platform c₁ (first :: ds) c₂ s d s' := by
  obtain ⟨handled, earlier, later, rfl, before, after⟩ := handling
  exact ⟨handled, first :: earlier, later, rfl, .cons delivered before, after⟩

theorem Deliveries.granted (deliveries : Deliveries platform c₁ ds c₂)
    (late : NoLateGrant platform eventId userId T c₁ ds c₂)
    (present : HasRole platform c₂.shared.world eventId userId) :
    HasRole platform c₁.shared.world eventId userId ∨
      ∃ d ∈ ds, d.grantsRole eventId userId ∧ ¬d.olderThan T := by
  induction deliveries with
  | nil => exact .inl present
  | @cons c x c₂ d rest delivered after ih =>
    have onward : NoLateGrant platform eventId userId T x rest c₂ := fun s d s' handling =>
      late s d s' (handling.later delivered)
    rcases ih onward present with held | ⟨newer, member, grants⟩
    · by_cases before : HasRole platform c.shared.world eventId userId
      · exact .inl before
      have grants : d.grantsRole eventId userId := by
        by_contra ungranted
        exact delivered.ungranted before ungranted held
      right
      refine ⟨d, List.mem_cons_self, grants, fun older => before ?_⟩
      exact late c d x ⟨delivered, [], rest, rfl, .nil c, after⟩ older grants
    · exact .inr ⟨newer, List.mem_cons_of_mem _ member, grants⟩

theorem removal_first (removes : d.removesRole eventId userId)
    (occurred : d.message.occurredAt = some T) : ∃ e rest, d.roleEdits = e :: rest ∧
      e.key = (eventId, userId) ∧ e.removes = true ∧ e.checked = true ∧ e.occurredAt = T := by
  obtain ⟨e, member, same, drops⟩ := removes
  obtain ⟨message, time, writes⟩ := d
  cases message with
  | roleAssigned payload =>
    obtain rfl := List.mem_singleton.mp member
    cases drops
  | roleRemoved payload =>
    obtain rfl := List.mem_singleton.mp member
    exact ⟨_, [], rfl, same, rfl, rfl, Option.some.inj occurred⟩
  | ownerChanged payload =>
    rcases List.mem_append.mp member with old | new
    · obtain ⟨oldOwnerId, changed, rfl⟩ := List.mem_map.mp old
      have owner : payload.oldOwnerId = some oldOwnerId := by simpa using changed
      refine ⟨_, [Delivery.assign (payload.eventId, payload.newOwnerId) .admin payload.occurredAt time],
        ?_, same, rfl, rfl, Option.some.inj occurred⟩
      simp [Delivery.roleEdits, owner]
    · obtain rfl := List.mem_singleton.mp new
      cases drops
  | _ => cases member

theorem Delivered.removes (delivered : Delivered platform c removal c₁)
    (removes : removal.removesRole eventId userId) (occurred : removal.message.occurredAt = some T)
    (applied : stale ((c.shared.world.role eventId userId).bind (·.updatedAt)) T = false)
    (present : HasRole platform c₁.shared.world eventId userId) :
    removal.grantsRole eventId userId := by
  by_contra ungranted
  have others (e : Edit (Uuid × Uuid) EventRoleType) (member : e ∈ removal.roleEdits)
      (same : e.key = (eventId, userId)) : e.removes = true := by
    by_contra keeps
    exact ungranted ⟨e, member, same, by simpa using keeps⟩
  obtain ⟨e, rest, edits, same, drops, checked, rfl⟩ := removal_first removes occurred
  have kept : e.skipped c.shared.world.roleRows = false := by
    rw [skipped_roleEdit checked, same]
    exact applied
  have gone : e.apply c.shared.world.roleRows (eventId, userId) = none := by
    rw [← same]
    simp [Edit.apply, kept, Edit.write, Edit.outcome, drops]
  rw [edits, List.forall_mem_cons] at others
  rw [hasRole_iff, delivered.edits.1, edits, List.foldl_cons, absent_foldl rest gone others.2]
    at present
  cases present

/-- Once a removal has been applied, the user gets a role by newer messages only, if and only if no
older message that gives one is handled while the user has none. -/
theorem stays_removed_iff (removed : Delivered platform c removal c₁)
    (removes : removal.removesRole eventId userId) (occurred : removal.message.occurredAt = some T)
    (applied : stale ((c.shared.world.role eventId userId).bind (·.updatedAt)) T = false)
    (deliveries : Deliveries platform c₁ ds c₂) :
    StaysRemoved platform eventId userId T removal c₁ ds c₂ ↔
      NoLateGrant platform eventId userId T c₁ ds c₂ := by
  constructor
  case mp =>
    intro stays s d s' handling older grants
    by_contra absent
    exact stays.older s d s' handling older absent (handling.handled.grants grants absent)
  case mpr =>
    intro late
    constructor
    case older =>
      intro s d s' handling older absent
      exact handling.handled.ungranted absent fun grants =>
        absent (late s d s' handling older grants)
    case newer =>
      rintro earlier later s rfl before after present
      have soFar : NoLateGrant platform eventId userId T c₁ earlier s := by
        rintro x d x' ⟨handled, first, rest, rfl, start, finish⟩
        refine late x d x' ⟨handled, first, rest ++ later, ?_, start, finish.append after⟩
        rw [List.append_assoc, List.cons_append]
      rcases before.granted soFar present with held | ⟨d, member, grants⟩
      · refine ⟨removal, List.mem_cons_self, removed.removes removes occurred applied held, ?_⟩
        rintro ⟨occurredAt, same, older⟩
        rw [occurred] at same
        cases same
        exact Nat.lt_irrefl _ older
      · exact ⟨d, List.mem_cons_of_mem _ member, grants⟩

section Samples

open Sample

def dismissal : Delivery where
  message := .roleRemoved { eventId := event, userId := staff, occurredAt := 5000 }
  time := 5000
  writes := 1

def afterDismissal : List ServiceAct :=
  afterFirst ++ .invoke dismissal.message :: [.step 1, .step 1]

-- The assignment that the removal has ended is delivered a second time.
def redelivered : Delivery where
  message := assignment .usher 1000
  time := 5000
  writes := 1

def afterRedelivered : List ServiceAct :=
  afterDismissal ++ .invoke redelivered.message :: [.step 2, .step 2]

theorem dismissed : Delivered deployment (run afterFirst) dismissal (run afterDismissal) :=
  delivered_run afterFirst _ dismissal (by decide) (by decide +kernel) (by decide +kernel)
    (by decide +kernel) (by decide +kernel) (by decide +kernel)

theorem redelivery :
    Delivered deployment (run afterDismissal) redelivered (run afterRedelivered) :=
  delivered_run afterDismissal _ redelivered (by decide) (by decide +kernel) (by decide +kernel)
    (by decide +kernel) (by decide +kernel) (by decide +kernel)

theorem dismissal_removes : dismissal.removesRole event staff :=
  ⟨_, List.mem_cons_self, rfl, rfl⟩

theorem removed_role_returns : ¬∀ c removal c₁ ds c₂ T,
    (service deployment).Reachable World.empty c → Delivered deployment c removal c₁ →
    removal.removesRole event staff → removal.message.occurredAt = some T →
    stale ((c.shared.world.role event staff).bind (·.updatedAt)) T = false →
    Deliveries deployment c₁ ds c₂ → StaysRemoved deployment event staff T removal c₁ ds c₂ := by
  intro stays
  have all := stays _ _ _ _ _ _ (reachable_run afterFirst) dismissed dismissal_removes rfl
    (by decide +kernel) (.cons redelivery (.nil _))
  have handling : Handling deployment (run afterDismissal) [redelivered] (run afterRedelivered)
      (run afterDismissal) redelivered (run afterRedelivered) :=
    ⟨redelivery, [], [], rfl, .nil _, .nil _⟩
  refine all.older _ _ _ handling ⟨1000, rfl, by decide⟩ ?_ ?_
  · rw [hasRole_iff]
    decide +kernel
  · rw [hasRole_iff]
    decide +kernel

def reinstated : Delivery where
  message := assignment .security 5000
  time := 5000
  writes := 1

def afterReinstated : List ServiceAct :=
  afterDismissal ++ .invoke reinstated.message :: [.step 2, .step 2]

theorem reinstatement :
    Delivered deployment (run afterDismissal) reinstated (run afterReinstated) :=
  delivered_run afterDismissal _ reinstated (by decide) (by decide +kernel) (by decide +kernel)
    (by decide +kernel) (by decide +kernel) (by decide +kernel)

theorem stays_removed_reinstated :
    StaysRemoved deployment event staff 5000 dismissal (run afterDismissal) [reinstated]
      (run afterReinstated) := by
  refine (stays_removed_iff dismissed dismissal_removes rfl (by decide +kernel)
    (.cons reinstatement (.nil _))).mpr ?_
  rintro s d s' ⟨-, earlier, later, split, -⟩ ⟨occurredAt, same, older⟩ -
  have only : d ∈ [reinstated] := by simp [split]
  rw [List.mem_singleton.mp only] at same
  cases same
  exact absurd older (by decide)

end Samples

end TicketService
