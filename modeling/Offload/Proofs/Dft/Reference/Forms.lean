import Offload.Proofs.Dft.Reference.AllOrNothing

/-!
# The forms of a transform agree

Complex data comes in four forms: in place or not, and as pairs or in two halves. `Args.present`
gives an array of complex numbers in each of them. Reading takes the same numbers from all four and
writing puts the same numbers into all four, so a transform leaves the same array in each form:
`forms_agree`. There is nothing in this about the numbers themselves, whose operations are arbitrary
functions. On buffers, a transform does what it does on the contents of the buffers.
-/

set_option autoImplicit false

namespace Offload.Dft

open Number Reference

variable {f : Format}

/-! ## The four forms -/

def realHalf (zs : Array (Complex (Binary f))) : Samples := .real f (zs.map (·.re))

def imaginaryHalf (zs : Array (Complex (Binary f))) : Samples := .real f (zs.map (·.im))

/-- The data of a call that reads one array and writes another. In place there is only the array
that is written. -/
def Args.present (p : Placement) (t : Storage) (input output : Array (Complex (Binary f))) :
    Args Samples :=
  match p, t with
  | .inPlace, .interleaved => .inPlace (.complex f output)
  | .inPlace, .split => .inPlaceSplit (realHalf output) (imaginaryHalf output)
  | .outOfPlace, .interleaved => .outOfPlace (.complex f input) (.complex f output)
  | .outOfPlace, .split =>
    .outOfPlaceSplit (realHalf input) (imaginaryHalf input) (realHalf output)
      (imaginaryHalf output)

def Settings.withForm (s : Settings) (p : Placement) (t : Storage) : Settings :=
  { s with placement := p, storage := t }

variable {R : Type} [Arithmetic R] {p : Placement} {t : Storage}
  {input output : Array (Complex (Binary f))} {direction : Direction} {s : Settings}

theorem placement_present : (Args.present p t input output).placement = p := by
  cases p <;> cases t <;> rfl

theorem exists_output_present (p : Placement) (t : Storage)
    (input output : Array (Complex (Binary f))) :
    ∃ data ∈ (Args.present p t input output).outputs, data.length = output.size := by
  have hhalf : (realHalf output).length = output.size := Array.size_map
  cases t with
  | interleaved => cases p <;> exact ⟨.complex f output, List.mem_singleton_self _, rfl⟩
  | split => cases p <;> exact ⟨realHalf output, List.mem_cons_self .., hhalf⟩

theorem storage_present : (Args.present p t input output).storage = t := by
  cases p <;> cases t <;> rfl

/-! ## Reading and writing in the four forms -/

/-- All forms of one array read as the same numbers: the parts of a number that are stored apart are
put together again. -/
theorem readInput_present (p : Placement) (t : Storage) (zs : Array (Complex (Binary f)))
    (i : Nat) :
    readInput (Args.present p t zs zs) i = zs[i]?.map (Complex.load (R := R)) := by
  have hre : (readSample (realHalf zs) i : Option (Complex R)) =
      zs[i]?.map fun z => Complex.ofReal (Arithmetic.load f z.re) := by
    rw [realHalf, readSample, Array.getElem?_map, Option.map_map]
    rfl
  have him : (readSample (imaginaryHalf zs) i : Option (Complex R)) =
      zs[i]?.map fun z => Complex.ofReal (Arithmetic.load f z.im) := by
    rw [imaginaryHalf, readSample, Array.getElem?_map, Option.map_map]
    rfl
  cases t with
  | interleaved => cases p <;> rfl
  | split => cases p <;> simp only [Args.present, readInput, hre, him] <;> cases zs[i]? <;> rfl

theorem writeSplit_halves {i : Nat} (h : i < output.size) (z : Complex R) :
    writeSplit (realHalf output) (imaginaryHalf output) i z =
      (true, realHalf (output.setIfInBounds i (z.store f)),
        imaginaryHalf (output.setIfInBounds i (z.store f))) := by
  have hre : i < (output.map (·.re)).size := by simpa using h
  have him : i < (output.map (·.im)).size := by simpa using h
  simp only [writeSplit, realHalf, imaginaryHalf, writeSample, if_pos hre, if_pos him,
    Array.map_setIfInBounds]
  rfl

theorem writeOutput_present {i : Nat} (h : i < output.size) (z : Complex R) :
    writeOutput (Args.present p t input output) i z =
      (true, Args.present p t input (output.setIfInBounds i (z.store f))) := by
  have hsplit := writeSplit_halves h z
  have hpairs : writeSample (.complex f output) i z =
      (true, .complex f (output.setIfInBounds i (z.store f))) := by
    simp only [writeSample, if_pos h]
  cases t with
  | interleaved => cases p <;> simp only [Args.present, writeOutput, hpairs]
  | split => cases p <;> simp only [Args.present, writeOutput, hsplit]

def storeAll (output : Array (Complex (Binary f))) :
    List (Nat × Complex R) → Array (Complex (Binary f))
  | [] => output
  | (i, z) :: rest => storeAll (output.setIfInBounds i (z.store f)) rest

theorem scatter_present {results : List (Nat × Complex R)}
    (h : ∀ result ∈ results, result.1 < output.size) :
    scatter direction results (Args.present p t input output) =
      (.ok (), Args.present p t input (storeAll output results)) := by
  induction results generalizing output with
  | nil => rfl
  | cons result rest ih =>
    obtain ⟨i, z⟩ := result
    rw [List.forall_mem_cons] at h
    simp only [scatter, writeOutput_present h.1, storeAll]
    refine ih fun other hother => ?_
    rw [Array.size_setIfInBounds]
    exact h.2 other hother

/-! ## The same results in the four forms -/

theorem gather_congr {args other : Args Samples}
    (h : ∀ i, (readInput args i : Option (Complex R)) = readInput other i) (places : List Nat) :
    (gather args places : Except Nat (List (Complex R))) = gather other places := by
  induction places with
  | nil => rfl
  | cons i rest ih => simp only [gather, h i, ih]

theorem allResults_congr {args other : Args Samples}
    (h : ∀ i, (readInput args i : Option (Complex R)) = readInput other i) (batch : List Nat) :
    (allResults s direction args batch : Except Nat (List (Nat × Complex R))) =
      allResults s direction other batch := by
  induction batch with
  | nil => rfl
  | cons b rest ih => simp only [allResults, results, gather_congr h, ih]

theorem allResults_withForm (args : Args Samples) (batch : List Nat) :
    (allResults (s.withForm p t) direction args batch : Except Nat (List (Nat × Complex R))) =
      allResults s direction args batch := by
  induction batch with
  | nil => rfl
  | cons b rest ih =>
    have hresults : (results (s.withForm p t) direction args b :
        Except Nat (List (Nat × Complex R))) = results s direction args b := by
      cases direction <;> rfl
    simp only [allResults, hresults, ih]

theorem no_fault_present {d : Descriptor ReferencePlan} {c : Commitment ReferencePlan}
    (h : d.OnReference c) (hdomain : s.domain = .complex) (hsettings : d.settings = s.withForm p t)
    {zs : Array (Complex (Binary f))}
    (hlong : ∀ side, ∃ extent, s.extent side = .ok extent ∧ extent ≤ zs.size)
    (direction : Direction) :
    firstFault (d.admissionChecks direction (Args.present p t zs zs)) = none := by
  have hextent : ∀ side, d.settings.extent side = s.extent side := by
    intro side
    rw [hsettings]
    cases side <;> rfl
  have hcovered : ∀ side, d.settings.extentD side ≤ zs.size := by
    intro side
    obtain ⟨extent, hok, hle⟩ := hlong side
    rw [extentD_eq ((hextent side).trans hok)]
    exact hle
  have hcomputable : ∀ side, d.settings.extentCheck side = none := by
    intro side
    obtain ⟨extent, hok, -⟩ := hlong side
    exact extentCheck_eq_none_iff.mpr ⟨extent, (hextent side).trans hok⟩
  have hviews : ∀ view ∈ views d.settings.domain direction (Args.present p t zs zs),
      view.length = zs.size ∧ ∀ role ∈ view.roles, role.width = 1 := by
    have hcomplex : d.settings.domain = .complex := by
      rw [hsettings]
      exact hdomain
    rw [hcomplex]
    cases p <;> cases t <;>
      simp [views, Args.present, Samples.length, realHalf, imaginaryHalf, Domain.spectrumWidth]
  have hlengths : ∀ view ∈ views d.settings.domain direction (Args.present p t zs zs),
      d.settings.lengthCheck view = none := by
    intro view hview
    obtain ⟨hlength, hwidth⟩ := hviews view hview
    rw [Settings.lengthCheck, require_eq_none_iff, required_le_iff, hlength]
    intro role hrole
    have hside := hcovered role.side
    rw [hwidth role hrole]
    omega
  have hcommitted : d.isCommitted = true := by rw [Descriptor.isCommitted, h.commitment]; rfl
  rw [firstFault_eq_none_iff]
  simp only [Descriptor.admissionChecks, List.cons_append, List.nil_append, List.forall_mem_cons,
    List.forall_mem_map, require_eq_none_iff]
  refine ⟨hcommitted, ?_, ?_, hcomputable .forward, hcomputable .backward, hlengths⟩
  · rw [placement_present, hsettings]
    rfl
  · rw [storage_present, hsettings]
    rfl

variable (R) in
theorem exists_transform_present (hdomain : s.domain = .complex) {zs : Array (Complex (Binary f))}
    {found : List (Nat × Complex R)}
    (hfound : allResults s direction (Args.present p t zs zs) (List.range s.transforms.toNat) =
      .ok found)
    (hplaces : ∀ result ∈ found, result.1 < zs.size) :
    ∃ after : Array (Complex (Binary f)), ∀ p t,
      transform R (s.withForm p t) direction (Args.present p t zs zs) =
        (.ok (), Args.present p t zs after) := by
  -- All input is read before any result is written, so the results are the same in every form.
  refine ⟨storeAll zs found, fun p' t' => ?_⟩
  have hreads : ∀ i, (readInput (Args.present p' t' zs zs) i : Option (Complex R)) =
      readInput (Args.present p t zs zs) i := by
    intro i
    rw [readInput_present, readInput_present]
  have hnotReal : ¬((s.withForm p' t').domain = .real ∧
      (s.withForm p' t').placement = .inPlace) := by
    rintro ⟨hreal, -⟩
    have hcomplex : (s.withForm p' t').domain = .complex := hdomain
    rw [hcomplex] at hreal
    cases hreal
  have hresults : (allResults (s.withForm p' t') direction (Args.present p' t' zs zs)
      (List.range (s.withForm p' t').transforms.toNat) :
        Except Nat (List (Nat × Complex R))) = .ok found := by
    rw [allResults_withForm, allResults_congr hreads]
    exact hfound
  simp only [transform, if_neg hnotReal, hresults]
  exact scatter_present hplaces

/-! ## Transforms on buffers -/

namespace Memory

theorem get_putAll_of_not_mem (mem : Memory) {storage : Nat} {storages : List Nat}
    (contents : List Samples) (h : storage ∉ storages) :
    (mem.putAll (storages.zip contents)).get storage = mem.get storage := by
  induction storages generalizing mem contents with
  | nil => rfl
  | cons other rest ih =>
    rw [List.mem_cons, not_or] at h
    cases contents with
    | nil => rfl
    | cons content contents =>
      rw [List.zip_cons_cons, putAll, ih (mem.put other content) contents h.2]
      exact get_put_of_ne mem content fun heq => h.1 heq.symm

theorem map_get_putAll (mem : Memory) {storages : List Nat} {contents : List Samples}
    (hnodup : storages.Nodup) (hvalid : ∀ storage ∈ storages, storage < mem.cells.length)
    (hlength : storages.length = contents.length) :
    storages.map (mem.putAll (storages.zip contents)).get = contents := by
  induction storages generalizing mem contents with
  | nil =>
    cases contents with
    | nil => rfl
    | cons => cases hlength
  | cons storage rest ih =>
    cases contents with
    | nil => cases hlength
    | cons content contents =>
      rw [List.nodup_cons] at hnodup
      rw [List.forall_mem_cons] at hvalid
      have hcells : (mem.put storage content).cells.length = mem.cells.length := by
        simp [put]
      rw [List.zip_cons_cons, putAll, List.map_cons, get_putAll_of_not_mem _ _ hnodup.1,
        get_put_self mem content hvalid.1,
        ih (mem.put storage content) hnodup.2 (by rw [hcells]; exact hvalid.2)
          (Nat.succ.inj hlength)]

end Memory

theorem Args.outputs_sublist {β : Type} (args : Args β) : args.outputs.Sublist args.toList := by
  cases args <;> simp [Args.outputs, Args.toList]

theorem get_writeBack_of_not_mem (mem : Memory) (buffers : Args Nat) (results : Args Samples)
    {storage : Nat} (h : storage ∉ buffers.outputs) :
    (mem.writeBack buffers results).get storage = mem.get storage :=
  mem.get_putAll_of_not_mem results.outputs h

theorem map_get_writeBack {mem : Memory} {buffers : Args Nat} {results : Args Samples}
    (hnodup : buffers.toList.Nodup)
    (hvalid : ∀ storage ∈ buffers.toList, storage < mem.cells.length)
    (h : (buffers.map mem.get).Rewritten results) :
    buffers.map (mem.writeBack buffers results).get = results := by
  have hlength : buffers.outputs.length = results.outputs.length := by
    cases buffers <;> cases h <;> rfl
  have houtputs : buffers.outputs.map (mem.writeBack buffers results).get = results.outputs :=
    mem.map_get_putAll (hnodup.sublist buffers.outputs_sublist)
      (fun storage hstorage => hvalid storage (buffers.outputs_sublist.mem hstorage)) hlength
  have hinputs : ∀ storage, storage ∉ buffers.outputs →
      (mem.writeBack buffers results).get storage = mem.get storage :=
    fun storage hstorage => get_writeBack_of_not_mem mem buffers results hstorage
  generalize mem.writeBack buffers results = after at houtputs hinputs ⊢
  cases buffers with
  | inPlace data =>
    cases h with
    | inPlace => simpa [Args.outputs, Args.map] using houtputs
  | inPlaceSplit re im =>
    cases h with
    | inPlaceSplit => simpa [Args.outputs, Args.map] using houtputs
  | outOfPlace input output =>
    -- The input is not among the storages that were written, and holds what it held.
    have hinput : input ≠ output := by simpa [Args.toList] using hnodup
    have hkept := hinputs input (by simpa [Args.outputs] using hinput)
    cases h with
    | outOfPlace => simpa [Args.outputs, Args.map, hkept] using houtputs
  | outOfPlaceSplit inputRe inputIm outputRe outputIm =>
    have hdistinct : (inputRe ≠ inputIm ∧ inputRe ≠ outputRe ∧ inputRe ≠ outputIm) ∧
        (inputIm ≠ outputRe ∧ inputIm ≠ outputIm) ∧ outputRe ≠ outputIm := by
      simpa [Args.toList] using hnodup
    obtain ⟨⟨-, hre, hre'⟩, ⟨him, him'⟩, -⟩ := hdistinct
    have hkeptRe := hinputs inputRe (by simp [Args.outputs, hre, hre'])
    have hkeptIm := hinputs inputIm (by simp [Args.outputs, him, him'])
    cases h with
    | outOfPlaceSplit => simpa [Args.outputs, Args.map, hkeptRe, hkeptIm] using houtputs

theorem rewritten_taskRun (s : Settings) (direction : Direction) (args : Args Samples)
    (dependencies : List Event) : args.Rewritten (taskRun s direction args dependencies).2 := by
  unfold taskRun
  cases Event.waitAll dependencies with
  | ok u => exact rewritten_transform Float s direction args
  | error cause => exact .refl args

namespace Descriptor.OnReference

variable {ν : Type}

theorem rewritten_compute {d : Descriptor ReferencePlan} {c : Commitment ReferencePlan}
    (h : d.OnReference c) (direction : Direction) (args : Args Samples)
    (dependencies : List Event) (w : Machine ν) :
    args.Rewritten (d.compute direction args dependencies w).2.1 := by
  cases hchecks : firstFault (d.admissionChecks direction args) with
  | some fault =>
    rw [compute_of_fault hchecks]
    exact .refl args
  | none =>
    rw [h.compute_of_no_fault hchecks]
    exact rewritten_taskRun d.settings direction args dependencies

theorem computeBuffers_eq_compute {d : Descriptor ReferencePlan} {c : Commitment ReferencePlan}
    (h : d.OnReference c) (direction : Direction) {buffers : Args Nat} {mem : Memory}
    (hnodup : buffers.toList.Nodup)
    (hvalid : ∀ storage ∈ buffers.toList, storage < mem.cells.length)
    (w : Machine ν) :
    let run := d.compute direction (buffers.map mem.get) [] w
    let onBuffers := d.computeBuffers direction buffers mem w
    onBuffers.1 = run.1.bind Event.outcome ∧ buffers.map onBuffers.2.1.get = run.2.1 ∧
      onBuffers.2.2 = run.2.2 ∧
      ∀ storage, storage ∉ buffers.outputs → onBuffers.2.1.get storage = mem.get storage := by
  intro run onBuffers
  have hdistinct : checkDistinct (buffers.names.zip buffers.toList) = .ok () := by
    rw [checkDistinct_eq_ok_iff, List.map_snd_zip (Nat.le_of_eq buffers.length_names.symm)]
    exact hnodup
  have hrun : onBuffers = _ := computeBuffers_of_distinct hdistinct w
  have hrewritten := h.rewritten_compute direction (buffers.map mem.get) [] w
  rw [hrun]
  exact ⟨rfl, map_get_writeBack hnodup hvalid hrewritten, rfl,
    fun storage hstorage => get_writeBack_of_not_mem mem buffers _ hstorage⟩

theorem taskOutcome_of_complex {s : Settings} (h : s.domain = .complex) (direction : Direction)
    (dependencies : List Event) :
    s.taskOutcome direction dependencies = Event.waitAll dependencies := by
  unfold Settings.taskOutcome
  cases Event.waitAll dependencies with
  | error cause => rfl
  | ok u => simp [h]

theorem exists_taskRun_present {s : Settings} (hdomain : s.domain = .complex)
    {d : Descriptor ReferencePlan} {c : Commitment ReferencePlan} (h : d.OnReference c)
    (hsettings : d.settings = s.withForm p t) {zs : Array (Complex (Binary f))}
    (hlong : ∀ side, ∃ extent, s.extent side = .ok extent ∧ extent ≤ zs.size)
    (direction : Direction) (dependencies : List Event) :
    ∃ after : Array (Complex (Binary f)), ∀ p t,
      (taskRun (s.withForm p t) direction (.present p t zs zs) dependencies).2 =
        .present p t zs after := by
  unfold taskRun
  cases Event.waitAll dependencies with
  | error cause => exact ⟨zs, fun _ _ => rfl⟩
  | ok u =>
    have hcovers := covers_of_admitted (no_fault_present h hdomain hsettings hlong direction)
    obtain ⟨found, hfound, hplaces⟩ := hcovers.exists_allResults Float h.wellFormed h.sound.2
      fun b hb => List.mem_range.mp hb
    rw [hsettings, allResults_withForm] at hfound
    have hsizes : ∀ result ∈ found, result.1 < zs.size := by
      intro result hresult
      obtain ⟨data, hdata, hsize⟩ := exists_output_present p t zs zs
      rw [← hsize]
      exact hplaces result hresult data hdata
    obtain ⟨after, hafter⟩ := exists_transform_present Float hdomain hfound hsizes
    exact ⟨after, fun p' t' => by rw [hafter]⟩

/-- Descriptors of complex data that differ in placement and storage only make the same array of
one that covers both domains, whatever form it is given in, and their tasks have the same outcome.
Calls leave what is only read. On distinct buffers, they do what they do on the contents of the
buffers, and wait for it. -/
theorem forms_agree {s : Settings} (hdomain : s.domain = .complex)
    {d : Placement → Storage → Descriptor ReferencePlan}
    {c : Placement → Storage → Commitment ReferencePlan}
    (hcommitted : ∀ p t, (d p t).OnReference (c p t))
    (hsettings : ∀ p t, (d p t).settings = s.withForm p t)
    {zs : Array (Complex (Binary f))}
    (hlong : ∀ side, ∃ extent, s.extent side = .ok extent ∧ extent ≤ zs.size)
    (direction : Direction) :
    (∀ dependencies : List Event, ∃ after, ∀ p t (w : Machine ν),
      let outcome := Event.waitAll dependencies
      (d p t).compute direction (.present p t zs zs) dependencies w =
        (.ok ⟨direction.task, some (c p t).queue.id, outcome⟩, .present p t zs after,
          w.entered (c p t).queue outcome)) ∧
      (∀ p t (args : Args Samples) (dependencies : List Event) (w : Machine ν),
        args.Rewritten ((d p t).compute direction args dependencies w).2.1) ∧
      ∀ p t (buffers : Args Nat) (mem : Memory) (w : Machine ν), buffers.toList.Nodup →
        (∀ storage ∈ buffers.toList, storage < mem.cells.length) →
        let run := (d p t).compute direction (buffers.map mem.get) [] w
        let onBuffers := (d p t).computeBuffers direction buffers mem w
        onBuffers.1 = run.1.bind Event.outcome ∧ buffers.map onBuffers.2.1.get = run.2.1 ∧
          onBuffers.2.2 = run.2.2 ∧
          ∀ storage, storage ∉ buffers.outputs → onBuffers.2.1.get storage = mem.get storage := by
  refine ⟨?_, ?_, ?_⟩
  · intro dependencies
    obtain ⟨after, hafter⟩ := exists_taskRun_present hdomain (hcommitted .inPlace .interleaved)
      (hsettings .inPlace .interleaved) hlong direction dependencies
    refine ⟨after, fun p t w => ?_⟩
    have hpass := no_fault_present (hcommitted p t) hdomain (hsettings p t) hlong direction
    have hcomplex : (d p t).settings.domain = .complex := by
      rw [hsettings]
      exact hdomain
    rw [(hcommitted p t).compute_of_no_fault hpass, taskOutcome_of_complex hcomplex, hsettings,
      hafter]
  · intro p t args dependencies w
    exact (hcommitted p t).rewritten_compute direction args dependencies w
  · intro p t buffers mem w hnodup hvalid run onBuffers
    exact (hcommitted p t).computeBuffers_eq_compute direction hnodup hvalid w

theorem forms_agree_four :
    let s := Settings.initial .single .complex [4]
    let system := System.onReference ⟨s, none⟩
    let calls := fun (p : Placement) (t : Storage) =>
      [Call.set .placement (.choice p.choice), .set .complexStorage (.choice t.choice),
        .commit ⟨0, Device.host⟩]
    let d := fun p t => (system.run (calls p t)).descriptor
    let zs : Array (Complex (Binary .single)) := Array.replicate 4 ⟨.zero .single, .zero .single⟩
    ∃ (c : Placement → Storage → Commitment ReferencePlan)
      (after : Array (Complex (Binary .single))),
      (∀ p t, (d p t).OnReference (c p t)) ∧
        ∀ p t, ((d p t).compute .forward (.present p t zs zs) [] system.world).2.1 =
          .present p t zs after := by
  intro s system calls d zs
  have fresh : system.Fresh := ⟨.single, .complex, [4], rfl⟩
  have hcommitted : ∀ p t, ∃ c, (d p t).OnReference c := by
    intro p t
    have hname : (d p t).commitment.map (·.backend) = some "reference" := by
      cases p <;> cases t <;> decide +kernel
    obtain ⟨c, hc, hreference⟩ := Option.map_eq_some_iff.mp hname
    exact ⟨c, of_run fresh (by simp [calls, Call.Honest]) hc hreference⟩
  have hsettings : ∀ p t, (d p t).settings = s.withForm p t := by
    intro p t
    cases p <;> cases t <;> decide +kernel
  have hlong : ∀ side, ∃ extent, s.extent side = .ok extent ∧ extent ≤ zs.size := by
    intro side
    cases side <;> exact ⟨4, by decide +kernel, by decide +kernel⟩
  choose c hc using hcommitted
  obtain ⟨hslices, -, -⟩ := forms_agree rfl hc hsettings hlong .forward
  obtain ⟨after, hafter⟩ := hslices []
  exact ⟨c, after, hc, fun p t => by rw [hafter p t system.world]⟩

end Descriptor.OnReference

end Offload.Dft
