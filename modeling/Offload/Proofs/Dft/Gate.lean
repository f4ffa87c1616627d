import Offload.Proofs.Dft.Commitment

/-!
# Which transforms reach their plan

Sixteen calls run a transform: in each direction on data that the caller manages or on buffers, in
place or not, with complex numbers as pairs or in two halves. `Descriptor.checks` lists what is
asked of each of them, in order, and `compute_gated` says that nothing else decides: a call that
passes all checks reaches the plan in force, once and with all that it was given, and any other is
refused by the first check that it fails.
-/

set_option autoImplicit false

namespace Offload.Dft

open Number

variable {ω π : Type}

/-! ## Checks in order -/

def require (p : Prop) [Decidable p] (fault : ComputeFault) : Option ComputeFault :=
  if p then none else some fault

theorem require_of_holds {p : Prop} [Decidable p] {fault : ComputeFault} (h : p) :
    require p fault = none := if_pos h

theorem require_of_not {p : Prop} [Decidable p] {fault : ComputeFault} (h : ¬p) :
    require p fault = some fault := if_neg h

theorem require_eq_none_iff {p : Prop} [Decidable p] {fault : ComputeFault} :
    require p fault = none ↔ p := by
  by_cases hp : p
  · exact iff_of_true (require_of_holds hp) hp
  · exact iff_of_false (by simp [require_of_not hp]) hp

/-- The fault of the first check that fails. -/
def firstFault (checks : List (Option ComputeFault)) : Option ComputeFault := checks.findSome? id

theorem firstFault_eq_none_iff {checks : List (Option ComputeFault)} :
    firstFault checks = none ↔ ∀ check ∈ checks, check = none := by
  simp [firstFault]

theorem firstFault_none_cons (rest : List (Option ComputeFault)) :
    firstFault (none :: rest) = firstFault rest := rfl

theorem firstFault_some_cons (fault : ComputeFault) (rest : List (Option ComputeFault)) :
    firstFault (some fault :: rest) = some fault := rfl

theorem firstFault_append (first second : List (Option ComputeFault)) :
    firstFault (first ++ second) = (firstFault first).or (firstFault second) :=
  List.findSome?_append

def verdict (checks : List (Option ComputeFault)) : Except ComputeFault Unit :=
  match firstFault checks with
  | none => .ok ()
  | some fault => .error fault

theorem verdict_eq_ok_iff {checks : List (Option ComputeFault)} :
    verdict checks = .ok () ↔ firstFault checks = none := by
  unfold verdict
  cases firstFault checks <;> simp

def pairs {α : Type} : List α → List (α × α)
  | [] => []
  | a :: rest => rest.map (fun b => (a, b)) ++ pairs rest

def aliasChecks (buffers : List (String × Nat)) : List (Option ComputeFault) :=
  (pairs buffers).map fun (a, b) => require (a.2 ≠ b.2) (.aliasing a.1 b.1)

/-! ## What a call demands of its data -/

/-- A domain whose elements a piece of data holds, and how many of its own elements each takes. -/
structure Role where
  side : Direction
  width : Nat

structure View where
  name : String
  length : Nat
  roles : List Role

/-- The numbers that one element of the spectrum takes in data of the forward domain. -/
def Domain.spectrumWidth : Domain → Nat
  | .real => 2
  | .complex => 1

def views (domain : Domain) (direction : Direction) : Args Samples → List View
  | .inPlace data =>
    [⟨"inout", data.length, [⟨.forward, 1⟩, ⟨.backward, domain.spectrumWidth⟩]⟩]
  | .inPlaceSplit re im =>
    [⟨"re", re.length, [⟨.forward, 1⟩, ⟨.backward, 1⟩]⟩,
      ⟨"im", im.length, [⟨.forward, 1⟩, ⟨.backward, 1⟩]⟩]
  | .outOfPlace input output =>
    [⟨"input", input.length, [⟨direction, 1⟩]⟩,
      ⟨"output", output.length, [⟨direction.opposite, 1⟩]⟩]
  | .outOfPlaceSplit inputRe inputIm outputRe outputIm =>
    [⟨"input_re", inputRe.length, [⟨direction, 1⟩]⟩,
      ⟨"input_im", inputIm.length, [⟨direction, 1⟩]⟩,
      ⟨"output_re", outputRe.length, [⟨direction.opposite, 1⟩]⟩,
      ⟨"output_im", outputIm.length, [⟨direction.opposite, 1⟩]⟩]

namespace Settings

variable (s : Settings)

def extentCheck (side : Direction) : Option ComputeFault :=
  match s.extent side with
  | .ok _ => none
  | .error cause => some (.extent cause)

def extentD (side : Direction) : Nat :=
  match s.extent side with
  | .ok extent => extent
  | .error _ => 0

/-- The length that some roles require. Counts of elements end with the range of machine words. -/
def required (roles : List Role) : Nat :=
  roles.foldl (fun n role => max n (min (role.width * s.extentD role.side) maxWord64)) 0

def lengthCheck (view : View) : Option ComputeFault :=
  require (s.required view.roles ≤ view.length)
    (.short view.name view.length (s.required view.roles))

end Settings

namespace Descriptor

def admissionChecks (d : Descriptor π) (direction : Direction) (args : Args Samples) :
    List (Option ComputeFault) :=
  [require (d.isCommitted = true) .notCommitted,
    require (args.placement = d.settings.placement)
      (.placement d.settings.placement args.placement),
    require (args.storage = d.settings.storage) (.storage d.settings.storage args.storage),
    d.settings.extentCheck .forward,
    d.settings.extentCheck .backward] ++
  (views d.settings.domain direction args).map d.settings.lengthCheck

def checks (d : Descriptor π) (direction : Direction) (form : Form) (mem : Memory) :
    List (Option ComputeFault) :=
  aliasChecks form.named ++ d.admissionChecks direction (form.args mem)

end Descriptor

/-- The conditions under which a transform reaches its plan. -/
structure Gate (d : Descriptor π) (direction : Direction) (form : Form) (mem : Memory) : Prop where
  distinct : (form.named.map Prod.snd).Nodup
  committed : d.isCommitted = true
  placement : (form.args mem).placement = d.settings.placement
  storage : (form.args mem).storage = d.settings.storage
  computable : ∀ side, ∃ extent, d.settings.extent side = .ok extent
  covered : ∀ view ∈ views d.settings.domain direction (form.args mem), ∀ role ∈ view.roles,
    ∀ extent, d.settings.extent role.side = .ok extent → role.width * extent ≤ view.length

/-! ## The code makes these checks -/

theorem firstFault_alias (name : String) (storage : Nat) (rest : List (String × Nat)) :
    firstFault (rest.map fun other => require (storage ≠ other.2) (.aliasing name other.1)) =
      (rest.find? fun other => other.2 == storage).map fun other => .aliasing name other.1 := by
  induction rest with
  | nil => rfl
  | cons other rest ih =>
    rw [List.map_cons]
    by_cases h : other.2 = storage
    · have heq : ¬storage ≠ other.2 := fun hne => hne h.symm
      rw [require_of_not heq, firstFault_some_cons, List.find?_cons_of_pos (by simpa using h)]
      rfl
    · have hne : storage ≠ other.2 := fun e => h e.symm
      rw [require_of_holds hne, firstFault_none_cons, ih,
        List.find?_cons_of_neg (by simpa using h)]

theorem checkDistinct_eq_verdict (buffers : List (String × Nat)) :
    checkDistinct buffers = verdict (aliasChecks buffers) := by
  induction buffers with
  | nil => rfl
  | cons b rest ih =>
    obtain ⟨name, storage⟩ := b
    have hfirst : aliasChecks ((name, storage) :: rest) =
        rest.map (fun other => require (storage ≠ other.2) (.aliasing name other.1)) ++
          aliasChecks rest := by
      simp [aliasChecks, pairs, Function.comp_def]
    rw [verdict, hfirst, firstFault_append, firstFault_alias, checkDistinct]
    cases rest.find? fun other => other.2 == storage with
    | some other => rfl
    | none => exact ih

theorem checkNeeds_eq_verdict (needs : List (String × Nat × Nat)) :
    checkNeeds needs =
      verdict (needs.map fun n => require (n.2.2 ≤ n.2.1) (.short n.1 n.2.1 n.2.2)) := by
  induction needs with
  | nil => rfl
  | cons n rest ih =>
    obtain ⟨name, length, required⟩ := n
    rw [checkNeeds, verdict, List.map_cons]
    by_cases h : length < required
    · rw [if_pos h, require_of_not (Nat.not_le.2 h), firstFault_some_cons]
    · rw [if_neg h, require_of_holds (Nat.not_lt.1 h), firstFault_none_cons]
      exact ih

theorem Settings.extent_le {s : Settings} {side : Direction} {extent : Nat}
    (h : s.extent side = .ok extent) : extent ≤ maxWord64 := by
  unfold Settings.extent at h
  cases hr : s.reach side with
  | none => simp [hr] at h
  | some bounds =>
    obtain ⟨low, high⟩ := bounds
    simp only [hr] at h
    split at h
    · cases h
    · split at h
      · cases h
      · split at h
        · rename_i hword
          have hbound := hword.2
          have := Except.ok.inj h
          simp only [maxWord64] at hbound ⊢
          omega
        · cases h

theorem extentD_eq {s : Settings} {side : Direction} {extent : Nat}
    (h : s.extent side = .ok extent) : s.extentD side = extent := by
  simp only [Settings.extentD, h]

theorem extentD_le (s : Settings) (side : Direction) : s.extentD side ≤ maxWord64 := by
  cases h : s.extent side with
  | error cause => simp only [Settings.extentD, h, Nat.zero_le]
  | ok extent =>
    rw [extentD_eq h]
    exact Settings.extent_le h

theorem required_single (s : Settings) (side : Direction) :
    s.required [⟨side, 1⟩] = s.extentD side := by
  have hle := extentD_le s side
  rw [Settings.required, List.foldl_cons, List.foldl_nil]
  dsimp only
  omega

theorem required_both (s : Settings) (width : Nat) :
    s.required [⟨.forward, 1⟩, ⟨.backward, width⟩] =
      max (s.extentD .forward) (min (width * s.extentD .backward) maxWord64) := by
  have hle := extentD_le s .forward
  rw [Settings.required, List.foldl_cons, List.foldl_cons, List.foldl_nil]
  dsimp only
  omega

theorem inPlaceNeed_eq (domain : Domain) (forward : Nat) {backward : Nat}
    (h : backward ≤ maxWord64) :
    inPlaceNeed domain forward backward =
      max forward (min (domain.spectrumWidth * backward) maxWord64) := by
  cases domain with
  | real => rfl
  | complex =>
    rw [inPlaceNeed, Domain.spectrumWidth, Nat.one_mul, Nat.min_eq_left h]

theorem needs_eq_required (s : Settings) (direction : Direction) (args : Args Samples) :
    args.names.zip ((args.toList.map Samples.length).zip
        (needs s.domain direction (s.extentD .forward) (s.extentD .backward) args)) =
      (views s.domain direction args).map fun view =>
        (view.name, view.length, s.required view.roles) := by
  have hble := extentD_le s .backward
  cases args with
  | inPlace data =>
    rw [needs, views, inPlaceNeed_eq s.domain _ hble, ← required_both]
    rfl
  | inPlaceSplit re im =>
    have hneeds : max (s.extentD .forward) (s.extentD .backward) =
        s.required [⟨.forward, 1⟩, ⟨.backward, 1⟩] := by
      rw [required_both, Nat.one_mul, Nat.min_eq_left hble]
    rw [needs, views, hneeds]
    rfl
  | outOfPlace input output =>
    have hneeds : needs s.domain direction (s.extentD .forward) (s.extentD .backward)
        (.outOfPlace input output) =
          [s.required [⟨direction, 1⟩], s.required [⟨direction.opposite, 1⟩]] := by
      rw [required_single, required_single]
      cases direction <;> rfl
    rw [hneeds, views]
    rfl
  | outOfPlaceSplit inputRe inputIm outputRe outputIm =>
    have hneeds : needs s.domain direction (s.extentD .forward) (s.extentD .backward)
        (.outOfPlaceSplit inputRe inputIm outputRe outputIm) =
          [s.required [⟨direction, 1⟩], s.required [⟨direction, 1⟩],
            s.required [⟨direction.opposite, 1⟩], s.required [⟨direction.opposite, 1⟩]] := by
      rw [required_single, required_single]
      cases direction <;> rfl
    rw [hneeds, views]
    rfl

theorem checkExtents_eq_verdict (s : Settings) (direction : Direction) (args : Args Samples) :
    checkExtents s direction args =
      verdict ([s.extentCheck .forward, s.extentCheck .backward] ++
        (views s.domain direction args).map s.lengthCheck) := by
  unfold checkExtents
  cases hf : s.extent .forward with
  | error cause => simp [verdict, firstFault, Settings.extentCheck, hf]
  | ok forward =>
    cases hb : s.extent .backward with
    | error cause => simp [verdict, firstFault, Settings.extentCheck, hf, hb]
    | ok backward =>
      dsimp only
      rw [← extentD_eq hf, ← extentD_eq hb, needs_eq_required, checkNeeds_eq_verdict, List.map_map]
      simp only [Settings.extentCheck, hf, hb]
      rfl

namespace Descriptor

theorem admit_of_fault {d : Descriptor π} {direction : Direction} {args : Args Samples}
    {fault : ComputeFault} (h : firstFault (d.admissionChecks direction args) = some fault) :
    d.admit direction args = .error fault := by
  -- The checks are taken off the list in the order in which the code makes them.
  unfold admissionChecks at h
  cases hc : d.commitment with
  | none =>
    have hcommitted : ¬d.isCommitted = true := by simp [isCommitted, hc]
    rw [require_of_not hcommitted] at h
    unfold Descriptor.admit
    simp only [hc, Option.some.inj h]
  | some c =>
    have hcommitted : d.isCommitted = true := by simp [isCommitted, hc]
    rw [require_of_holds hcommitted] at h
    unfold Descriptor.admit
    simp only [hc]
    by_cases hp : args.placement = d.settings.placement
    · rw [require_of_holds hp] at h
      rw [if_neg (not_not_intro hp)]
      by_cases hs : args.storage = d.settings.storage
      · rw [require_of_holds hs] at h
        rw [if_neg (not_not_intro hs), checkExtents_eq_verdict, verdict]
        simp only [List.cons_append, List.nil_append, firstFault_none_cons] at h ⊢
        rw [h]
        rfl
      · rw [require_of_not hs] at h
        rw [if_pos hs, Option.some.inj h]
    · rw [require_of_not hp] at h
      rw [if_pos hp, Option.some.inj h]

theorem admit_of_no_fault {d : Descriptor π} {direction : Direction} {args : Args Samples}
    (h : firstFault (d.admissionChecks direction args) = none) :
    ∃ c, d.commitment = some c ∧ d.admit direction args = .ok c := by
  have hall := firstFault_eq_none_iff.1 h
  simp only [admissionChecks, List.cons_append, List.forall_mem_cons, require_eq_none_iff] at hall
  obtain ⟨hcommitted, hp, hs, hrest⟩ := hall
  obtain ⟨c, hc⟩ := Option.isSome_iff_exists.1 hcommitted
  refine ⟨c, hc, ?_⟩
  unfold Descriptor.admit
  simp only [hc, if_neg (not_not_intro hp), if_neg (not_not_intro hs), checkExtents_eq_verdict,
    verdict]
  have hfault : firstFault ([d.settings.extentCheck .forward, d.settings.extentCheck .backward] ++
      (views d.settings.domain direction args).map d.settings.lengthCheck) = none := by
    refine firstFault_eq_none_iff.2 ?_
    simpa using hrest
  rw [hfault]
  rfl

end Descriptor

/-! ## The checks together -/

theorem required_le_iff {s : Settings} {roles : List Role} {length : Nat} :
    s.required roles ≤ length ↔
      ∀ role ∈ roles, min (role.width * s.extentD role.side) maxWord64 ≤ length := by
  have hfold : ∀ n, roles.foldl (fun n role =>
      max n (min (role.width * s.extentD role.side) maxWord64)) n ≤ length ↔
      n ≤ length ∧ ∀ role ∈ roles, min (role.width * s.extentD role.side) maxWord64 ≤ length := by
    induction roles with
    | nil => simp
    | cons role rest ih =>
      intro n
      rw [List.foldl_cons, ih, Nat.max_le, List.forall_mem_cons, and_assoc]
  rw [Settings.required, hfold]
  simp

theorem extentCheck_eq_none_iff {s : Settings} {side : Direction} :
    s.extentCheck side = none ↔ ∃ extent, s.extent side = .ok extent := by
  unfold Settings.extentCheck
  cases s.extent side <;> simp

theorem length_of_mem_views {domain : Domain} {direction : Direction} {args : Args Samples}
    {view : View} (h : view ∈ views domain direction args) :
    ∃ data ∈ args.toList, view.length = data.length := by
  cases args <;> simp only [views, List.mem_cons, List.not_mem_nil, or_false] at h
  case inPlace data => exact ⟨data, by simp [Args.toList], by rw [h]⟩
  case inPlaceSplit re im =>
    rcases h with rfl | rfl
    · exact ⟨re, by simp [Args.toList], rfl⟩
    · exact ⟨im, by simp [Args.toList], rfl⟩
  case outOfPlace input output =>
    rcases h with rfl | rfl
    · exact ⟨input, by simp [Args.toList], rfl⟩
    · exact ⟨output, by simp [Args.toList], rfl⟩
  case outOfPlaceSplit inputRe inputIm outputRe outputIm =>
    rcases h with rfl | rfl | rfl | rfl
    · exact ⟨inputRe, by simp [Args.toList], rfl⟩
    · exact ⟨inputIm, by simp [Args.toList], rfl⟩
    · exact ⟨outputRe, by simp [Args.toList], rfl⟩
    · exact ⟨outputIm, by simp [Args.toList], rfl⟩

/-- Data is shorter than the largest count, so that no count it can meet was cut off. -/
theorem lengthCheck_eq_none_iff {s : Settings} {view : View} (h : view.length < maxWord64)
    (hextents : ∀ side, ∃ extent, s.extent side = .ok extent) :
    s.lengthCheck view = none ↔ ∀ role ∈ view.roles, ∀ extent,
      s.extent role.side = .ok extent → role.width * extent ≤ view.length := by
  rw [Settings.lengthCheck, require_eq_none_iff, required_le_iff]
  refine forall_congr' fun role => imp_congr_right fun _ => ?_
  obtain ⟨extent, hextent⟩ := hextents role.side
  simp only [Settings.extentD, hextent, Except.ok.injEq, forall_eq']
  omega

theorem admissionChecks_eq_none_iff {d : Descriptor π} {direction : Direction}
    {args : Args Samples} (h : ∀ data ∈ args.toList, data.length < maxWord64) :
    firstFault (d.admissionChecks direction args) = none ↔
      d.isCommitted = true ∧ args.placement = d.settings.placement ∧
      args.storage = d.settings.storage ∧
      (∀ side, ∃ extent, d.settings.extent side = .ok extent) ∧
      ∀ view ∈ views d.settings.domain direction args, ∀ role ∈ view.roles, ∀ extent,
        d.settings.extent role.side = .ok extent → role.width * extent ≤ view.length := by
  have hlengths : (∀ side, ∃ extent, d.settings.extent side = .ok extent) →
      ((∀ view ∈ views d.settings.domain direction args, d.settings.lengthCheck view = none) ↔
        ∀ view ∈ views d.settings.domain direction args, ∀ role ∈ view.roles, ∀ extent,
          d.settings.extent role.side = .ok extent → role.width * extent ≤ view.length) := by
    intro hextents
    refine forall_congr' fun view => imp_congr_right fun hview => ?_
    obtain ⟨data, hdata, hlength⟩ := length_of_mem_views hview
    exact lengthCheck_eq_none_iff (hlength ▸ h data hdata) hextents
  rw [firstFault_eq_none_iff]
  simp only [Descriptor.admissionChecks, List.cons_append, List.nil_append, List.forall_mem_cons,
    require_eq_none_iff, extentCheck_eq_none_iff, List.forall_mem_map]
  constructor
  · rintro ⟨committed, placement, storage, hforward, hbackward, hviews⟩
    have computable : ∀ side, ∃ extent, d.settings.extent side = .ok extent := by
      intro side
      cases side with
      | forward => exact hforward
      | backward => exact hbackward
    exact ⟨committed, placement, storage, computable, (hlengths computable).1 hviews⟩
  · rintro ⟨committed, placement, storage, computable, covered⟩
    exact ⟨committed, placement, storage, computable .forward, computable .backward,
      (hlengths computable).2 covered⟩

/-- A call passes all checks just when it meets the conditions. -/
theorem firstFault_checks_eq_none_iff {d : Descriptor π} {direction : Direction} {form : Form}
    {mem : Memory} (h : ∀ data ∈ (form.args mem).toList, data.length < maxWord64) :
    firstFault (d.checks direction form mem) = none ↔ Gate d direction form mem := by
  have halias : firstFault (aliasChecks form.named) = none ↔ (form.named.map Prod.snd).Nodup := by
    rw [← verdict_eq_ok_iff, ← checkDistinct_eq_verdict, checkDistinct_eq_ok_iff]
  rw [Descriptor.checks, firstFault_append, Option.or_eq_none_iff, halias,
    admissionChecks_eq_none_iff h]
  constructor
  · rintro ⟨distinct, committed, placement, storage, computable, covered⟩
    exact ⟨distinct, committed, placement, storage, computable, covered⟩
  · rintro ⟨distinct, committed, placement, storage, computable, covered⟩
    exact ⟨distinct, committed, placement, storage, computable, covered⟩

/-! ## The calls -/

theorem Memory.writeBack_unchanged (mem : Memory) (buffers : Args Nat) :
    mem.writeBack buffers (buffers.map mem.get) = mem := by
  have hput : ∀ storage, mem.put storage (mem.get storage) = mem := by
    intro storage
    simp only [Memory.put, Memory.get, List.getD_eq_getElem?_getD]
    by_cases h : storage < mem.cells.length
    · rw [List.getElem?_eq_getElem h, Option.getD_some, List.set_getElem_self]
    · rw [List.set_eq_of_length_le (by omega)]
  have hall : ∀ storages : List Nat,
      mem.putAll (storages.zip (storages.map mem.get)) = mem := by
    intro storages
    induction storages with
    | nil => rfl
    | cons storage rest ih => rw [List.map_cons, List.zip_cons_cons, Memory.putAll, hput, ih]
  rw [Memory.writeBack, Args.outputs_map, hall]

namespace System

variable [Plan ω π]

theorem compute_of_fault {s : System ω π} {direction : Direction} {form : Form}
    {fault : ComputeFault}
    (h : firstFault (s.descriptor.checks direction form s.memory) = some fault) :
    s.executions direction form = [] ∧
      s.compute direction form = (.error (fault.toError direction), s) := by
  rw [Descriptor.checks, firstFault_append] at h
  cases halias : firstFault (aliasChecks form.named) with
  | some found =>
    rw [halias, Option.some_or, Option.some.injEq] at h
    subst h
    have hdistinct : checkDistinct form.named = .error found := by
      rw [checkDistinct_eq_verdict, verdict, halias]
    refine ⟨by simp only [executions, hdistinct], ?_⟩
    cases form with
    | slices args dependencies => cases hdistinct
    | buffers storages =>
      simp only [Form.named] at hdistinct
      simp only [compute, Descriptor.computeBuffers, hdistinct]
      rfl
  | none =>
    rw [halias, Option.none_or] at h
    have hdistinct : checkDistinct form.named = .ok () := by
      rw [checkDistinct_eq_verdict, verdict, halias]
    have hchecked := Descriptor.admit_of_fault h
    refine ⟨by simp only [executions, hdistinct, hchecked], ?_⟩
    -- Buffers were read by now, and what was read is written back.
    cases form with
    | slices args dependencies =>
      simp only [Form.args] at hchecked
      simp only [compute, Descriptor.compute, hchecked]
      rfl
    | buffers storages =>
      simp only [Form.named] at hdistinct
      simp only [Form.args] at hchecked
      simp only [compute, Descriptor.computeBuffers, hdistinct, Descriptor.computeIn,
        Descriptor.compute, hchecked, Memory.writeBack_unchanged]
      rfl

omit [Plan ω π] in
theorem executions_of_no_fault {s : System ω π} {direction : Direction} {form : Form}
    (h : firstFault (s.descriptor.checks direction form s.memory) = none) :
    ∃ c, s.descriptor.commitment = some c ∧ s.executions direction form =
      [.executed c.plan c.queue direction (form.args s.memory) form.dependencies] := by
  rw [Descriptor.checks, firstFault_append, Option.or_eq_none_iff] at h
  obtain ⟨c, hc, hchecked⟩ := Descriptor.admit_of_no_fault h.2
  have hdistinct : checkDistinct form.named = .ok () := by
    rw [checkDistinct_eq_verdict, verdict, h.1]
  exact ⟨c, hc, by simp only [executions, hdistinct, hchecked]⟩

theorem ledger_compute (s : System ω π) (calls : List (Call ω π)) (direction : Direction)
    (form : Form) :
    s.ledger (calls ++ [.compute direction form]) =
      (s.run calls).executions direction form ++ s.ledger calls := by
  rw [ledger_append, Call.ledgered, step, compute_withLedger]
  rfl

/-- In every state of every run, a transform that passes all checks is given to the plan in force,
once, on the queue of the last successful commit, with the direction, the data and the dependencies
of the call. Any other call is refused by the first check that it fails, and changes nothing. All
checks pass just when the call meets the conditions of the gate; no data is longer than the memory
of a machine. -/
theorem compute_gated (s : System ω π) (fresh : s.Fresh) (calls : List (Call ω π))
    (direction : Direction) (form : Form) :
    (∀ fault, firstFault ((s.run calls).descriptor.checks direction form (s.run calls).memory) =
        some fault →
      s.ledger (calls ++ [.compute direction form]) = s.ledger calls ∧
      (s.run calls).compute direction form =
        (.error (.invalidArgument "dft" direction.task fault.text), s.run calls)) ∧
    (firstFault ((s.run calls).descriptor.checks direction form (s.run calls).memory) = none →
      ∃ c, (s.run calls).descriptor.commitment = some c ∧
        InForce (s.ledger calls) (s.run calls).descriptor.settings c ∧
        s.ledger (calls ++ [.compute direction form]) =
          .executed c.plan c.queue direction (form.args (s.run calls).memory) form.dependencies ::
            s.ledger calls) ∧
    ((∀ data ∈ (form.args (s.run calls).memory).toList, data.length < maxWord64) →
      (firstFault ((s.run calls).descriptor.checks direction form (s.run calls).memory) = none ↔
        Gate (s.run calls).descriptor direction form (s.run calls).memory)) := by
  refine ⟨?_, ?_, firstFault_checks_eq_none_iff⟩
  · intro fault hfault
    obtain ⟨hexecutions, hcompute⟩ := compute_of_fault hfault
    rw [ledger_compute, hexecutions]
    exact ⟨rfl, hcompute⟩
  · intro hnone
    obtain ⟨c, hc, hexecutions⟩ := executions_of_no_fault hnone
    have haccounts := accounts_run fresh calls
    simp only [Accounts, hc] at haccounts
    rw [ledger_compute, hexecutions]
    exact ⟨c, hc, haccounts, rfl⟩

theorem compute_gated_four :
    let s := onReference ⟨Settings.initial .single .complex [4], none⟩
    let data := Samples.zeros .single true 4
    s.Fresh ∧ Gate (s.run [.commit ⟨0, Device.host⟩]).descriptor .forward
        (.slices (.inPlace data) []) s.memory ∧
      ∃ c, (s.run [.commit ⟨0, Device.host⟩]).descriptor.commitment = some c ∧
        s.ledger [.commit ⟨0, Device.host⟩, .compute .forward (.slices (.inPlace data) [])] =
          .executed c.plan c.queue .forward (.inPlace data) [] ::
            s.ledger [.commit ⟨0, Device.host⟩] := by
  intro s data
  have fresh : s.Fresh := ⟨.single, .complex, [4], rfl⟩
  obtain ⟨-, hreached, hgate⟩ := compute_gated s fresh [.commit ⟨0, Device.host⟩] .forward
    (.slices (.inPlace data) [])
  have hnone : firstFault ((s.run [.commit ⟨0, Device.host⟩]).descriptor.checks .forward
      (.slices (.inPlace data) []) s.memory) = none := by decide +kernel
  have hshort : ∀ d ∈ (Args.inPlace data).toList, d.length < maxWord64 := by decide +kernel
  obtain ⟨c, hc, -, hledger⟩ := hreached hnone
  exact ⟨fresh, (hgate hshort).1 hnone, c, hc, hledger⟩

end System

end Offload.Dft
