import Offload.Proofs.Dft.Ledger

/-!
# What a committed descriptor is bound to

The ledger of a run tells which plan is in force: the one made last, or what it has become by the
scales that it took over since. `settings_in_force` says that a committed descriptor agrees with the
ledger in every state of every run, however the backends answer and whatever happens to the
registry. Its settings are those that the backend got, up to the scales that the plan agreed to.
-/

set_option autoImplicit false

namespace Offload.Dft

open Number

variable {ω π : Type}

/-! ## The plan in force -/

def planAfter (made : π) : List (Entry π) → π
  | [] => made
  | .rescaled _ _ _ became :: _ => became
  | .executed .. :: older => planAfter made older
  | .planned .. :: older => planAfter made older

def lastAccepted (direction : Direction) : List (Entry π) → Option Double
  | [] => none
  | .rescaled _ other x _ :: older =>
    if other = direction then some x else lastAccepted direction older
  | .executed .. :: older => lastAccepted direction older
  | .planned .. :: older => lastAccepted direction older

/-- No plan was made, and whatever was asked was asked of the one plan, as it was then, and on its
queue. -/
def Concerns (made : π) (queue : Queue) : List (Entry π) → Prop
  | [] => True
  | .planned .. :: _ => False
  | .rescaled asked _ _ _ :: older => asked = planAfter made older ∧ Concerns made queue older
  | .executed asked on _ _ _ :: older =>
    asked = planAfter made older ∧ on = queue ∧ Concerns made queue older

/-- The ledger's last plan was made for these settings, but for the scales that the plan took over
since, and is bound to like this. -/
def InForce (ledger : List (Entry π)) (s : Settings) (c : Commitment π) : Prop :=
  ∃ since backend queue given plan before,
    ledger = since ++ .planned backend queue given plan :: before ∧
    Concerns plan queue since ∧
    c = ⟨planAfter plan since, queue, backend⟩ ∧
    s = { given with
      forwardScale := (lastAccepted .forward since).getD given.forwardScale
      backwardScale := (lastAccepted .backward since).getD given.backwardScale }

theorem inForce_planned (ledger : List (Entry π)) (backend : String) (queue : Queue)
    (s : Settings) (plan : π) :
    InForce (.planned backend queue s plan :: ledger) s ⟨plan, queue, backend⟩ :=
  ⟨[], backend, queue, s, plan, ledger, rfl, trivial, rfl, rfl⟩

theorem inForce_rescaled {ledger : List (Entry π)} {s : Settings} {c : Commitment π}
    (h : InForce ledger s c) (direction : Direction) (x : Double) (plan : π) :
    InForce (.rescaled c.plan direction x plan :: ledger) (s.withScale direction x)
      { c with plan } := by
  obtain ⟨since, backend, queue, given, made, before, rfl, hconcerns, rfl, rfl⟩ := h
  refine ⟨.rescaled (planAfter made since) direction x plan :: since, backend, queue, given, made,
    before, rfl, ⟨rfl, hconcerns⟩, rfl, ?_⟩
  cases direction <;> rfl

theorem inForce_executed {ledger : List (Entry π)} {s : Settings} {c : Commitment π}
    (h : InForce ledger s c) (direction : Direction) (args : Args Samples)
    (dependencies : List Event) :
    InForce (.executed c.plan c.queue direction args dependencies :: ledger) s c := by
  obtain ⟨since, backend, queue, given, made, before, rfl, hconcerns, rfl, rfl⟩ := h
  exact ⟨.executed (planAfter made since) queue direction args dependencies :: since, backend,
    queue, given, made, before, rfl, ⟨rfl, rfl, hconcerns⟩, rfl, rfl⟩

theorem exists_isPlanned_of_inForce {ledger : List (Entry π)} {s : Settings} {c : Commitment π}
    (h : InForce ledger s c) : ∃ e ∈ ledger, e.isPlanned = true := by
  obtain ⟨since, backend, queue, given, made, before, rfl, -⟩ := h
  exact ⟨.planned backend queue given made, by simp, rfl⟩

/-! ## The invariant of runs -/

/-- The ledger accounts for a descriptor: nothing was asked of any backend before the first commit,
and later the descriptor is bound to the plan in force. -/
def Accounts (ledger : List (Entry π)) (d : Descriptor π) : Prop :=
  match d.commitment with
  | none => ledger = []
  | some c => InForce ledger d.settings c

theorem accounts_writes {old entries : List (Entry π)} {d d' : Descriptor π}
    (hw : Writes d entries d') (h : Accounts old d) : Accounts (entries ++ old) d' := by
  cases hw with
  | nothing => exact h
  | configured hc s =>
    simp only [Accounts, hc] at h
    exact h
  | planned backend queue plan => exact inForce_planned old backend queue d.settings plan
  | rescaled hc direction x plan =>
    simp only [Accounts, hc] at h
    exact inForce_rescaled h direction x plan
  | executed hc direction args dependencies =>
    simp only [Accounts, hc] at h ⊢
    exact inForce_executed h direction args dependencies

theorem writes_committed {entries : List (Entry π)} {d d' : Descriptor π}
    (hw : Writes d entries d') (h : d.isCommitted = true) :
    d'.isCommitted = true ∧ d.settings.SameButScales d'.settings := by
  cases hw with
  | nothing => exact ⟨h, d.settings.sameButScales_refl⟩
  | configured hc s => simp [Descriptor.isCommitted, hc] at h
  | planned backend queue plan => exact ⟨rfl, d.settings.sameButScales_refl⟩
  | rescaled hc direction x plan => exact ⟨rfl, d.settings.sameButScales_withScale direction x⟩
  | executed hc direction args dependencies => exact ⟨h, d.settings.sameButScales_refl⟩

def Call.concernsRegistry : Call ω π → Bool
  | .register _ | .unregister _ | .configure _ => true
  | _ => false

namespace System

theorem commitment_of_fresh {s : System ω π} (h : s.Fresh) : s.descriptor.commitment = none := by
  obtain ⟨precision, domain, lengths, h⟩ := h
  obtain ⟨-, -, hstart⟩ := Descriptor.new_eq_ok_iff.1 h
  rw [hstart]

variable [Plan ω π]

theorem accounts_run {s : System ω π} (h : s.Fresh) (calls : List (Call ω π)) :
    Accounts (s.ledger calls) (s.run calls).descriptor := by
  refine ledger_induction (fun _ _ _ _ hw ha => accounts_writes hw ha) ?_ calls
  simp only [Accounts, commitment_of_fresh h]

theorem committed_run {s : System ω π} (h : s.descriptor.isCommitted = true)
    (calls : List (Call ω π)) :
    (s.run calls).descriptor.isCommitted = true ∧
      s.descriptor.settings.SameButScales (s.run calls).descriptor.settings := by
  refine run_induction (P := fun t => t.descriptor.isCommitted = true ∧
    s.descriptor.settings.SameButScales t.descriptor.settings) ?_
    ⟨h, s.descriptor.settings.sameButScales_refl⟩ calls
  intro t c ⟨ht, hsame⟩
  obtain ⟨entries, _, hw⟩ := t.step_writes c []
  obtain ⟨hcommitted, hstep⟩ := writes_committed hw ht
  exact ⟨hcommitted, Settings.sameButScales_trans hsame hstep⟩

theorem descriptor_run_of_concernsRegistry (s : System ω π) {calls : List (Call ω π)}
    (h : ∀ c ∈ calls, c.concernsRegistry = true) : (s.run calls).descriptor = s.descriptor := by
  induction calls generalizing s with
  | nil => rfl
  | cons c rest ih =>
    have hstep : (s.step c).descriptor = s.descriptor := by
      cases c <;> first | rfl | simp [Call.concernsRegistry] at h
    rw [run, ih _ fun other hm => h other (List.mem_cons_of_mem _ hm), hstep]

/-- In every state of every run, a committed descriptor has the settings that its backend got with
the last successful commit, but for the scales that the plan took over since, and is bound to that
plan, queue and backend. A commit succeeds just when a plan for the settings of that moment is
entered. Once committed, a descriptor stays so, only its scales change, and changes of the registry
do not touch it. -/
theorem settings_in_force (s : System ω π) (fresh : s.Fresh) (calls more : List (Call ω π)) :
    (s.withLedger []).run (calls.map Call.ledgered) =
      (s.run calls).withLedger (s.ledger calls) ∧
    (∀ c, (s.run calls).descriptor.commitment = some c →
      InForce (s.ledger calls) (s.run calls).descriptor.settings c) ∧
    ((s.run calls).descriptor.isCommitted = true ↔ ∃ e ∈ s.ledger calls, e.isPlanned = true) ∧
    (∀ queue, ((s.run calls).descriptor.commit (s.run calls).registry queue
        (s.run calls).world).1 = .ok () ↔
      ∃ backend plan, s.ledger (calls ++ [.commit queue]) =
        .planned backend queue (s.run calls).descriptor.settings plan :: s.ledger calls) ∧
    ((s.run calls).descriptor.isCommitted = true →
      (s.run (calls ++ more)).descriptor.isCommitted = true ∧
      (s.run calls).descriptor.settings.SameButScales
        (s.run (calls ++ more)).descriptor.settings) ∧
    ((∀ c ∈ more, c.concernsRegistry = true) →
      (s.run (calls ++ more)).descriptor = (s.run calls).descriptor) := by
  have haccounts := accounts_run fresh calls
  refine ⟨s.run_withLedger calls, ?_, ?_, ?_, ?_, ?_⟩
  · intro c hc
    simpa only [Accounts, hc] using haccounts
  · cases hc : (s.run calls).descriptor.commitment with
    | none =>
      simp only [Accounts, hc] at haccounts
      simp [Descriptor.isCommitted, hc, haccounts]
    | some c =>
      simp only [Accounts, hc] at haccounts
      simpa [Descriptor.isCommitted, hc] using exists_isPlanned_of_inForce haccounts
  · intro queue
    obtain ⟨entries, hcommit, _, hok⟩ := commit_ledgered (s.run calls).registry
      (s.run calls).descriptor queue (s.run calls).world (s.ledger calls)
    -- The ledger of the longer run has the entries of the commit in front.
    rw [hok, ledger_append]
    simp only [step, Call.ledgered, withLedger, hcommit]
    refine exists_congr fun backend => exists_congr fun plan => ?_
    constructor
    · intro h
      rw [h, List.singleton_append]
    · intro h
      exact List.append_cancel_right (h.trans List.singleton_append.symm)
  · intro h
    rw [run_append]
    exact committed_run h more
  · intro h
    rw [run_append]
    exact descriptor_run_of_concernsRegistry _ h

theorem settings_in_force_unregistered :
    let s := onReference ⟨Settings.initial .single .complex [4], none⟩
    let calls := [.commit ⟨0, Device.host⟩, .set .forwardScale (.int 2), .unregister "reference"]
    s.Fresh ∧ ∃ c, (s.run calls).descriptor.commitment = some c ∧
      InForce (s.ledger calls) (s.run calls).descriptor.settings c := by
  intro s calls
  have fresh : s.Fresh := ⟨.single, .complex, [4], rfl⟩
  have hcommitted : (s.run calls).descriptor.isCommitted = true := by decide +kernel
  obtain ⟨c, hc⟩ := Option.isSome_iff_exists.mp hcommitted
  obtain ⟨-, hforce, -⟩ := settings_in_force s fresh calls []
  exact ⟨fresh, c, hc, hforce c hc⟩

end System

end Offload.Dft
