import Mathlib.Order.Monotone.Basic
import Offload.Proofs.Blas.Refusals
import Offload.Proofs.Blas.StridedBounds

/-!
# Groups are checked against their own entries

Grouped calls pass one operand list for all groups, in which every group has a share: as many
entries as the group has, right after those of the groups before. The shares cover the lists, each
place once, so a check that walks them finds an operand for every entry and holds it against the
terms of its own group. `groups_checked_by_shares` says which calls pass, and that any other is
refused for what is wrong first.
-/

set_option autoImplicit false

namespace Offload.Blas.RocBlas

open Number

variable {ω α : Type} {k : ElementKind}

/-! ## Shares -/

/-- The place of the first entry of group `g`: the entries of the groups before it come first. -/
def start (sizes : List Nat) (g : Nat) : Nat := (sizes.take g).sum

def share (sizes : List Nat) (g : Nat) : List Nat := List.range' (start sizes g) (sizes.getD g 0)

theorem start_succ (sizes : List Nat) (g : Nat) :
    start sizes (g + 1) = start sizes g + sizes.getD g 0 := by
  rw [start, start, List.take_add_one, List.sum_append, List.getD_eq_getElem?_getD]
  cases sizes[g]? <;> simp

theorem start_cons (n : Nat) (sizes : List Nat) (g : Nat) :
    start (n :: sizes) (g + 1) = n + start sizes g := by
  rw [start, List.take_succ_cons, List.sum_cons, start]

theorem start_mono (sizes : List Nat) : Monotone (start sizes) := by
  apply monotone_nat_of_le_succ
  intro g
  rw [start_succ]
  exact Nat.le_add_right ..

theorem mem_share_iff {sizes : List Nat} {g i : Nat} :
    i ∈ share sizes g ↔ start sizes g ≤ i ∧ i < start sizes (g + 1) := by
  rw [share, List.mem_range'_1, start_succ]

theorem share_cons (n : Nat) (sizes : List Nat) (g : Nat) :
    share (n :: sizes) (g + 1) = (share sizes g).map (n + ·) := by
  rw [share, start_cons, List.getD_cons_succ, share, List.map_add_range']

theorem flatMap_share (sizes : List Nat) :
    (List.range sizes.length).flatMap (share sizes) = List.range sizes.sum := by
  induction sizes with
  | nil => rfl
  | cons n rest ih =>
    have hfirst : share (n :: rest) 0 = List.range n := List.range_eq_range'.symm
    have hrest : (List.range rest.length).flatMap (fun g => share (n :: rest) (g + 1)) =
        (List.range rest.sum).map (n + ·) := by
      rw [← ih, List.map_flatMap]
      exact List.flatMap_congr fun g _ => share_cons n rest g
    rw [List.length_cons, List.range_succ_eq_map, List.flatMap_cons, List.flatMap_map, hfirst,
      hrest, List.sum_cons, List.range_add]

theorem existsUnique_share {sizes : List Nat} {i : Nat} (h : i < sizes.sum) :
    ∃! g, g < sizes.length ∧ start sizes g ≤ i ∧ i < start sizes (g + 1) := by
  have hmem : i ∈ (List.range sizes.length).flatMap (share sizes) := by
    rw [flatMap_share]
    exact List.mem_range.mpr h
  obtain ⟨g, hg, hi⟩ := List.mem_flatMap.mp hmem
  have hshare := mem_share_iff.mp hi
  refine ⟨g, ⟨List.mem_range.mp hg, hshare⟩, ?_⟩
  rintro other ⟨-, hother⟩
  -- Of two groups, the earlier one ends before the later one starts.
  rcases Nat.lt_trichotomy other g with hbefore | hsame | hafter
  · have hend : start sizes (other + 1) ≤ start sizes g := start_mono sizes hbefore
    omega
  · exact hsame
  · have hend : start sizes (g + 1) ≤ start sizes other := start_mono sizes hafter
    omega

theorem lt_sum_of_mem_share {sizes : List Nat} {g i : Nat} (h : i ∈ share sizes g) :
    i < sizes.sum := by
  have hend := (mem_share_iff.mp h).2
  have hwhole : start sizes (g + 1) + (sizes.drop (g + 1)).sum = sizes.sum := by
    rw [start, ← List.sum_append, List.take_append_drop]
  omega

theorem sum_map_toNat {sizes : List Int} (h : ∀ size ∈ sizes, 0 ≤ size) :
    ((sizes.map Int.toNat).sum : Int) = sizes.sum := by
  induction sizes with
  | nil => rfl
  | cons size rest ih =>
    rw [List.forall_mem_cons] at h
    rw [List.map_cons, List.sum_cons, List.sum_cons, Int.natCast_add, ih h.2,
      Int.toNat_of_nonneg h.1]

/-! ## The terms of a group -/

/-- What the library asks of one group. -/
structure Terms where
  size : Int
  integers : List (String × Int)
  extents : List Int

def gemmTerms (g : GemmGroup α) : Terms where
  size := g.size
  integers := gemmGroupIntegers g
  extents := [storedExtent g.transA g.m g.k g.lda, storedExtent g.transB g.k g.n g.ldb,
    matrixExtent g.m g.n g.ldc]

def trsmTerms (g : TrsmGroup α) : Terms where
  size := g.size
  integers := trsmGroupIntegers g
  extents :=
    let order := if g.side = .left then g.m else g.n
    [matrixExtent order order g.lda, matrixExtent g.m g.n g.ldb]

def terms {β : Type} : Grouped α β → Option (List Terms)
  | .gemm groups .. => some (groups.map gemmTerms)
  | .trsm groups .. => some (groups.map trsmTerms)
  | _ => none

def counts (ts : List Terms) : List Nat := ts.map fun t => t.size.toNat

/-- There is an entry at the place, and its operands hold what the library touches in them. -/
def Sufficient (operands : List (String × List Slice)) (t : Terms) (i : Nat) : Prop :=
  ∀ p ∈ operands.zip t.extents, ∃ slice, p.1.2[i]? = some slice ∧ p.2 ≤ slice.length

def entryDemands (operands : List (String × List Slice)) (t : Terms) (i : Nat) : List Demand :=
  (operands.zip t.extents).map fun ((name, slices), required) =>
    .extent name ((slices[i]?.map Slice.length).getD 0) required

/-- All that is checked, in order: one group after the other, the integers of a group before its
entries, and of each entry one operand after the other. -/
def inspection (operands : List (String × List Slice)) (ts : List Terms) : List Demand :=
  ts.zipIdx.flatMap fun (t, g) =>
    t.integers.map Demand.ofInteger ++ (share (counts ts) g).flatMap (entryDemands operands t)

/-! ## The walk over the shares -/

def inspectFrom (operands : List (String × List Slice)) (offset : Nat) : List Terms → List Demand
  | [] => []
  | t :: rest =>
    t.integers.map Demand.ofInteger ++
      (List.range' offset t.size.toNat).flatMap (entryDemands operands t) ++
      inspectFrom operands (offset + t.size.toNat) rest

theorem inspectFrom_eq (operands : List (String × List Slice)) (offset : Nat) (ts : List Terms) :
    inspectFrom operands offset ts = ts.zipIdx.flatMap fun (t, g) =>
      t.integers.map Demand.ofInteger ++
        ((share (counts ts) g).map (offset + ·)).flatMap (entryDemands operands t) := by
  induction ts generalizing offset with
  | nil => rfl
  | cons t rest ih =>
    have hfirst : (share (counts (t :: rest)) 0).map (offset + ·) =
        List.range' offset t.size.toNat := by
      rw [share, List.map_add_range']
      rfl
    have hlater : ∀ g, (share (counts (t :: rest)) (g + 1)).map (offset + ·) =
        (share (counts rest) g).map (offset + t.size.toNat + ·) := by
      intro g
      rw [counts, List.map_cons, share_cons, List.map_map]
      refine List.map_congr_left fun i _ => ?_
      exact (Nat.add_assoc ..).symm
    rw [inspectFrom, ih, List.zipIdx_cons', List.flatMap_cons, List.flatMap_map]
    simp only [hfirst, hlater, Prod.map, id]

theorem inspectFrom_zero (operands : List (String × List Slice)) (ts : List Terms) :
    inspectFrom operands 0 ts = inspection operands ts := by
  rw [inspectFrom_eq]
  simp only [Nat.zero_add, List.map_id', inspection]

theorem flatMap_take_drop {ε δ : Type} {entries : List ε} {f : ε → List δ} {atPlace : Nat → List δ}
    (h : ∀ i (hi : i < entries.length), f entries[i] = atPlace i) {offset n : Nat}
    (hfits : offset + n ≤ entries.length) :
    ((entries.drop offset).take n).flatMap f = (List.range' offset n).flatMap atPlace := by
  induction n generalizing offset with
  | zero => rfl
  | succ n ih =>
    have hplace : offset < entries.length := by omega
    rw [List.drop_eq_getElem_cons hplace, List.take_succ_cons, List.range'_succ, List.flatMap_cons,
      List.flatMap_cons, h offset hplace, ih (by omega)]

/-- Handing every group its share of the entries is walking over the places of the shares. -/
theorem groupDemands_drop {γ ε : Type} {size : γ → Int} {integers : γ → List (String × Int)}
    {extents : γ → ε → List (String × Nat × Int)} {toTerms : γ → Terms}
    {operands : List (String × List Slice)} {entries : List ε}
    (hsize : ∀ g, (toTerms g).size = size g) (hintegers : ∀ g, (toTerms g).integers = integers g)
    (hentry : ∀ g i (h : i < entries.length),
      (extents g entries[i]).map Demand.ofExtent = entryDemands operands (toTerms g) i)
    (groups : List γ) {offset : Nat}
    (hfits : offset + (counts (groups.map toTerms)).sum ≤ entries.length) :
    groupDemands size integers extents groups (entries.drop offset) =
      inspectFrom operands offset (groups.map toTerms) := by
  induction groups generalizing offset with
  | nil => rfl
  | cons g rest ih =>
    rw [List.map_cons, counts, List.map_cons, List.sum_cons, hsize] at hfits
    have hshare : ((entries.drop offset).take (size g).toNat).flatMap
        (fun entry => (extents g entry).map Demand.ofExtent) =
          (List.range' offset (size g).toNat).flatMap (entryDemands operands (toTerms g)) :=
      flatMap_take_drop (hentry g) (by omega)
    have hnext : offset + (size g).toNat + (counts (rest.map toTerms)).sum ≤ entries.length := by
      rw [counts]
      omega
    have hrest := ih hnext
    rw [groupDemands_cons, List.map_flatMap, hshare, List.drop_drop, hrest, List.map_cons,
      inspectFrom, hsize, hintegers, List.append_assoc]

theorem groupDemands_eq_inspection {γ ε : Type} {size : γ → Int}
    {integers : γ → List (String × Int)} {extents : γ → ε → List (String × Nat × Int)}
    {toTerms : γ → Terms} {operands : List (String × List Slice)} {entries : List ε}
    (hsize : ∀ g, (toTerms g).size = size g) (hintegers : ∀ g, (toTerms g).integers = integers g)
    (hentry : ∀ g i (h : i < entries.length),
      (extents g entries[i]).map Demand.ofExtent = entryDemands operands (toTerms g) i)
    (groups : List γ) (hfits : (counts (groups.map toTerms)).sum ≤ entries.length) :
    groupDemands size integers extents groups entries =
      inspection operands (groups.map toTerms) := by
  rw [← inspectFrom_zero, ← groupDemands_drop hsize hintegers hentry groups (by omega),
    List.drop_zero]

/-! ## The checks of grouped calls -/

def inspected (call : Grouped α Slice) (ts : List Terms) : Except Fault Unit :=
  match call.check with
  | .error fault => .error fault
  | .ok () => verdict (inspection call.operands ts)

section Provided

variable {call : Grouped α Slice} {ts : List Terms} (provided : terms call = some ts)
include provided

theorem counts_of_terms : counts ts = call.sizes.map Int.toNat := by
  cases call <;> cases provided <;> simp [counts, Grouped.sizes, gemmTerms, trsmTerms]

theorem length_of_covered (covered : call.Covered) :
    ∀ o ∈ call.operands, o.2.length = (counts ts).sum := by
  intro o ho
  have hentries := covered.entries o ho
  have hcounts := sum_map_toNat covered.nonneg
  rw [counts_of_terms provided]
  omega

end Provided

theorem checkGemmGroups_eq_inspected (groups : List (GemmGroup α)) (a b c : List Slice) :
    checkGemmGroups groups a b c = inspected (.gemm groups a b c) (groups.map gemmTerms) := by
  rw [checkGemmGroups, inspected, Grouped.check, Grouped.sizes, Grouped.operands]
  cases hcheck : checkGroups (groups.map (·.size)) [("a", a), ("b", b), ("c", c)] with
  | error fault => rfl
  | ok u =>
    have covered : (Grouped.gemm groups a b c).Covered := Grouped.check_eq_ok_iff.mp hcheck
    have hlength : ∀ o ∈ [("a", a), ("b", b), ("c", c)],
        o.2.length = (counts (groups.map gemmTerms)).sum := length_of_covered rfl covered
    simp only [List.forall_mem_cons] at hlength
    obtain ⟨ha, hb, hc, -⟩ := hlength
    have hdemands : groupDemands (·.size) gemmGroupIntegers gemmGroupExtents groups
        (a.zip (b.zip c)) = inspection [("a", a), ("b", b), ("c", c)] (groups.map gemmTerms) := by
      refine groupDemands_eq_inspection ?_ ?_ ?_ groups ?_
      · exact fun _ => rfl
      · exact fun _ => rfl
      · intro g i h
        rw [List.length_zip, List.length_zip] at h
        have hia : i < a.length := by omega
        have hib : i < b.length := by omega
        have hic : i < c.length := by omega
        simp [gemmGroupExtents, entryDemands, gemmTerms, Demand.ofExtent, hia, hib, hic]
      · rw [List.length_zip, List.length_zip]
        omega
    dsimp only
    rw [checkShares_eq_verdict, hdemands]

theorem checkTrsmGroups_eq_inspected (groups : List (TrsmGroup α)) (a b : List Slice) :
    checkTrsmGroups groups a b = inspected (.trsm groups a b) (groups.map trsmTerms) := by
  rw [checkTrsmGroups, inspected, Grouped.check, Grouped.sizes, Grouped.operands]
  cases hcheck : checkGroups (groups.map (·.size)) [("a", a), ("b", b)] with
  | error fault => rfl
  | ok u =>
    have covered : (Grouped.trsm groups a b).Covered := Grouped.check_eq_ok_iff.mp hcheck
    have hlength : ∀ o ∈ [("a", a), ("b", b)],
        o.2.length = (counts (groups.map trsmTerms)).sum := length_of_covered rfl covered
    simp only [List.forall_mem_cons] at hlength
    obtain ⟨ha, hb, -⟩ := hlength
    have hdemands : groupDemands (·.size) trsmGroupIntegers trsmGroupExtents groups (a.zip b) =
        inspection [("a", a), ("b", b)] (groups.map trsmTerms) := by
      refine groupDemands_eq_inspection ?_ ?_ ?_ groups ?_
      · exact fun _ => rfl
      · exact fun _ => rfl
      · intro g i h
        rw [List.length_zip] at h
        have hia : i < a.length := by omega
        have hib : i < b.length := by omega
        simp [trsmGroupExtents, entryDemands, trsmTerms, Demand.ofExtent, hia, hib]
      · rw [List.length_zip]
        omega
    dsimp only
    rw [checkShares_eq_verdict, hdemands]

theorem onGroups_of_terms {call : Grouped (Element k) Slice} {ts : List Terms}
    (provided : terms call = some ts) (queue : Queue) (layout : Layout)
    (dependencies : List Event) (w : ω) :
    backend.onGroups k queue layout call dependencies w =
      (.error (answer queue layout call.routine (inspected call ts)), w) := by
  cases call <;> cases provided
  case gemm groups a b c =>
    rw [onGroups_gemm, checkGemmGroups_eq_inspected]
    rfl
  case trsm groups a b =>
    rw [onGroups_trsm, checkTrsmGroups_eq_inspected]
    rfl

/-! ## Sizes and lists that do not fit -/

inductive Uncovered {β : Type} (call : Grouped α β) : Fault → Prop
  | negative {before after : List Int} {size : Int} (hsizes : call.sizes = before ++ size :: after)
      (hnonneg : ∀ n ∈ before, 0 ≤ n) (hfits : before.sum ≤ maxInt64) (hsize : size < 0) :
      Uncovered call (.negativeGroup before.length size)
  | overflow {before after : List Int} {size : Int} (hsizes : call.sizes = before ++ size :: after)
      (hnonneg : ∀ n ∈ before, 0 ≤ n) (hfits : before.sum ≤ maxInt64) (hsize : 0 ≤ size)
      (hover : maxInt64 < before.sum + size) : Uncovered call .groupTotalOverflow
  | entryCount {before after : List (String × List β)} {o : String × List β}
      (hnonneg : ∀ n ∈ call.sizes, 0 ≤ n) (hfits : call.sizes.sum ≤ maxInt64)
      (hoperands : call.operands = before ++ o :: after)
      (hbefore : ∀ p ∈ before, p.2.length = call.sizes.sum.toNat)
      (ho : o.2.length ≠ call.sizes.sum.toNat) :
      Uncovered call (.entryCount o.1 o.2.length call.sizes.sum.toNat)

theorem addGroups_append {before rest : List Int} {index : Nat} {total : Int}
    (hnonneg : ∀ n ∈ before, 0 ≤ n) (hfits : total + before.sum ≤ maxInt64) :
    addGroups index total (before ++ rest) =
      addGroups (index + before.length) (total + before.sum) rest := by
  induction before generalizing index total with
  | nil => simp
  | cons size before ih =>
    rw [List.forall_mem_cons] at hnonneg
    rw [List.sum_cons] at hfits
    have hpositive := List.sum_nonneg hnonneg.2
    rw [List.cons_append, addGroups, if_neg (by omega), if_pos (by omega),
      ih hnonneg.2 (by omega), List.length_cons, List.sum_cons]
    congr 1 <;> omega

theorem exists_of_addGroups {sizes : List Int} {index : Nat} {total : Int} {fault : Fault}
    (hrange : total ≤ maxInt64) (h : addGroups index total sizes = .error fault) :
    ∃ before size after, sizes = before ++ size :: after ∧ (∀ n ∈ before, 0 ≤ n) ∧
      total + before.sum ≤ maxInt64 ∧
      (size < 0 ∧ fault = .negativeGroup (index + before.length) size ∨
        0 ≤ size ∧ maxInt64 < total + before.sum + size ∧ fault = .groupTotalOverflow) := by
  induction sizes generalizing index total with
  | nil => cases h
  | cons size rest ih =>
    rw [addGroups] at h
    by_cases hnegative : size < 0
    · rw [if_pos hnegative] at h
      cases h
      exact ⟨[], size, rest, rfl, List.forall_mem_nil _, by simpa using hrange,
        .inl ⟨hnegative, rfl⟩⟩
    · rw [if_neg hnegative] at h
      by_cases hnext : total + size ≤ maxInt64
      · rw [if_pos hnext] at h
        obtain ⟨before, last, after, rfl, hnonneg, hfits, hlast⟩ := ih hnext h
        refine ⟨size :: before, last, after, rfl, ?_, ?_, ?_⟩
        · exact List.forall_mem_cons.mpr ⟨by omega, hnonneg⟩
        · rw [List.sum_cons]
          omega
        · rw [List.length_cons, List.sum_cons, ← Int.add_assoc, Nat.add_comm before.length,
            ← Nat.add_assoc]
          exact hlast
      · rw [if_neg hnext] at h
        cases h
        exact ⟨[], size, rest, rfl, List.forall_mem_nil _, by simpa using hrange,
          .inr ⟨by omega, by simpa using hnext, rfl⟩⟩

theorem checkEntryCounts_of_first {β : Type} {total : Nat} {before after : List (String × List β)}
    {o : String × List β} (hbefore : ∀ p ∈ before, p.2.length = total)
    (ho : o.2.length ≠ total) :
    checkEntryCounts total (before ++ o :: after) =
      .error (.entryCount o.1 o.2.length total) := by
  induction before with
  | nil =>
    obtain ⟨name, entries⟩ := o
    simp only [List.nil_append, checkEntryCounts, checkEntryCount, if_neg ho]
  | cons p rest ih =>
    rw [List.forall_mem_cons] at hbefore
    obtain ⟨name, entries⟩ := p
    have hlength : entries.length = total := hbefore.1
    simp only [List.cons_append, checkEntryCounts, checkEntryCount, if_pos hlength]
    exact ih hbefore.2

theorem exists_of_checkEntryCounts {β : Type} {total : Nat} {lists : List (String × List β)}
    {fault : Fault} (h : checkEntryCounts total lists = .error fault) :
    ∃ before o after, lists = before ++ o :: after ∧ (∀ p ∈ before, p.2.length = total) ∧
      o.2.length ≠ total ∧ fault = .entryCount o.1 o.2.length total := by
  induction lists with
  | nil => cases h
  | cons o rest ih =>
    obtain ⟨name, entries⟩ := o
    by_cases hlength : entries.length = total
    · simp only [checkEntryCounts, checkEntryCount, if_pos hlength] at h
      obtain ⟨before, o, after, rfl, hbefore, ho⟩ := ih h
      exact ⟨(name, entries) :: before, o, after, rfl,
        List.forall_mem_cons.mpr ⟨hlength, hbefore⟩, ho⟩
    · simp only [checkEntryCounts, checkEntryCount, if_neg hlength] at h
      cases h
      exact ⟨[], (name, entries), rest, rfl, List.forall_mem_nil _, hlength, rfl⟩

theorem check_eq_error_iff {β : Type} {call : Grouped α β} {fault : Fault} :
    call.check = .error fault ↔ Uncovered call fault := by
  have hzero : (0 : Int) ≤ maxInt64 := by decide
  have htotal : ∀ {n}, groupTotal call.sizes = .ok n ↔ _ := addGroups_eq_ok_iff hzero
  constructor
  · intro h
    unfold Grouped.check checkGroups at h
    cases hgroups : groupTotal call.sizes with
    | error found =>
      rw [hgroups] at h
      cases h
      obtain ⟨before, size, after, hsizes, hnonneg, hfits, hfault⟩ :=
        exists_of_addGroups hzero hgroups
      rw [Int.zero_add] at hfits hfault
      rw [Nat.zero_add] at hfault
      obtain ⟨hsize, rfl⟩ | ⟨hsize, hover, rfl⟩ := hfault
      · exact .negative hsizes hnonneg hfits hsize
      · exact .overflow hsizes hnonneg hfits hsize hover
    | ok total =>
      rw [hgroups] at h
      rw [htotal, Int.zero_add] at hgroups
      obtain ⟨hnonneg, hfits, rfl⟩ := hgroups
      obtain ⟨before, o, after, hoperands, hbefore, ho, rfl⟩ := exists_of_checkEntryCounts h
      exact .entryCount hnonneg hfits hoperands hbefore ho
  · intro h
    unfold Grouped.check checkGroups
    cases h with
    | negative hsizes hnonneg hfits hsize =>
      rw [groupTotal, hsizes, addGroups_append hnonneg (by omega), addGroups, if_pos hsize,
        Nat.zero_add]
    | overflow hsizes hnonneg hfits hsize hover =>
      rw [groupTotal, hsizes, addGroups_append hnonneg (by omega), addGroups,
        if_neg (by omega), if_neg (by omega)]
    | entryCount hnonneg hfits hoperands hbefore ho =>
      have hgroups : groupTotal call.sizes = .ok call.sizes.sum.toNat :=
        htotal.mpr ⟨hnonneg, by omega, by rw [Int.zero_add]⟩
      rw [hgroups, hoperands]
      exact checkEntryCounts_of_first hbefore ho

/-! ## Which calls pass -/

theorem met_entryDemands_iff {operands : List (String × List Slice)} {t : Terms} {i : Nat}
    (fits : ∀ o ∈ operands, ∀ slice ∈ o.2, (slice.length : Int) ≤ maxInt64)
    (hplace : ∀ o ∈ operands, i < o.2.length) :
    (∀ d ∈ entryDemands operands t i, d.Met) ↔ Sufficient operands t i := by
  rw [entryDemands, List.forall_mem_map, Sufficient]
  refine forall₂_congr ?_
  rintro ⟨⟨name, slices⟩, required⟩ hp
  have ho : (name, slices) ∈ operands := (List.of_mem_zip hp).1
  have hi : i < slices.length := hplace _ ho
  have hlength := fits _ ho slices[i] (List.getElem_mem hi)
  simp only [List.getElem?_eq_getElem hi, Option.map_some, Option.getD_some,
    Demand.met_extent_iff hlength, Option.some.injEq, exists_eq_left']

theorem mem_inspection_iff {operands : List (String × List Slice)} {ts : List Terms} {d : Demand} :
    d ∈ inspection operands ts ↔ ∃ g t, ts[g]? = some t ∧
      (d ∈ t.integers.map Demand.ofInteger ∨
        ∃ i ∈ share (counts ts) g, d ∈ entryDemands operands t i) := by
  simp only [inspection, List.mem_flatMap, List.mem_append, Prod.exists,
    List.mk_mem_zipIdx_iff_getElem?]
  exact exists_comm

theorem met_inspection_iff {operands : List (String × List Slice)} {ts : List Terms}
    (fits : ∀ o ∈ operands, ∀ slice ∈ o.2, (slice.length : Int) ≤ maxInt64)
    (hplaces : ∀ g, ∀ i ∈ share (counts ts) g, ∀ o ∈ operands, i < o.2.length) :
    (∀ d ∈ inspection operands ts, d.Met) ↔
      ∀ g t, ts[g]? = some t → (∀ n ∈ t.integers, InInt32 n.2) ∧
        ∀ i ∈ share (counts ts) g, Sufficient operands t i := by
  constructor
  · intro hmet g t ht
    constructor
    · intro n hn
      exact hmet (.ofInteger n) (mem_inspection_iff.mpr
        ⟨g, t, ht, .inl (List.mem_map_of_mem hn)⟩)
    · intro i hi
      rw [← met_entryDemands_iff fits (hplaces g i hi)]
      intro d hd
      exact hmet d (mem_inspection_iff.mpr ⟨g, t, ht, .inr ⟨i, hi, hd⟩⟩)
  · intro hgroups d hd
    obtain ⟨g, t, ht, hd⟩ := mem_inspection_iff.mp hd
    obtain ⟨hintegers, hentries⟩ := hgroups g t ht
    rcases hd with hinteger | ⟨i, hi, hd⟩
    · obtain ⟨n, hn, rfl⟩ := List.mem_map.mp hinteger
      exact hintegers n hn
    · exact (met_entryDemands_iff fits (hplaces g i hi)).mpr (hentries i hi) d hd

/-- The groups have the places of the operand lists among them. -/
structure Shared (lists : List (String × List Slice)) (ts : List Terms) : Prop where
  once : (List.range ts.length).flatMap (share (counts ts)) = List.range (counts ts).sum
  own : ∀ i < (counts ts).sum, ∃! g, g < ts.length ∧
    start (counts ts) g ≤ i ∧ i < start (counts ts) (g + 1)
  inLists : ∀ g, ∀ i ∈ share (counts ts) g, ∀ o ∈ lists, i < o.2.length

theorem shared_of_covered {call : Grouped α Slice} {ts : List Terms}
    (provided : terms call = some ts) (covered : call.Covered) : Shared call.operands ts := by
  have hlength : (counts ts).length = ts.length := List.length_map ..
  constructor
  · rw [← hlength]
    exact flatMap_share _
  · intro i hi
    rw [← hlength]
    exact existsUnique_share hi
  · intro g i hi o ho
    rw [length_of_covered provided covered o ho]
    exact lt_sum_of_mem_share hi

theorem inspected_eq_ok_iff {call : Grouped α Slice} {ts : List Terms} :
    inspected call ts = .ok () ↔ call.Covered ∧ ∀ d ∈ inspection call.operands ts, d.Met := by
  rw [inspected, ← Grouped.check_eq_ok_iff, ← verdict_eq_ok_iff]
  cases call.check with
  | error fault => exact iff_of_false nofun nofun
  | ok u => exact (and_iff_right rfl).symm

theorem answer_inspected_of_error {call : Grouped α Slice} {ts : List Terms} {fault : Fault}
    (h : inspected call ts = .error fault) (queue : Queue) :
    answer queue .columnMajor call.routine (inspected call ts) =
      fault.toError call.routine.name := by
  rw [h]
  rfl

def threeGroups : List (GemmGroup (Element .double)) :=
  let scalar := Element.zero .double
  [⟨.none, .none, 2, 1, 1, scalar, 2, 1, scalar, 2, 1⟩,
    ⟨.none, .none, 9, 9, 9, scalar, 9, 9, scalar, 9, 0⟩,
    ⟨.transpose, .none, 1, 2, 3, scalar, 3, 3, scalar, 1, 2⟩]

def lastShort : Grouped (Element .double) Slice :=
  .gemm threeGroups [⟨2⟩, ⟨3⟩, ⟨3⟩] [⟨1⟩, ⟨6⟩, ⟨5⟩] [⟨2⟩, ⟨2⟩, ⟨2⟩]

end Offload.Blas.RocBlas
