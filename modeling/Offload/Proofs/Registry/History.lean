import Mathlib.Data.List.Induction
import Offload.Registry

/-!
# The history of a registry

A registry is what its calls made of an empty one. The calls are numbered, and of every name it
matters which of them registered it last and whether it was unregistered since. `run_precedence`
says that the names and the backends of a registry can be read off its history: each name once, the
latest registration first, each with the backend that it was last registered with.
-/

set_option autoImplicit false

namespace Offload

namespace Registry

variable {β : Type}

inductive Change (β : Type)
  | register (b : β)
  | unregister (name : String)
  | configure (c : Config)

def Change.config? : Change β → Option Config
  | .configure c => some c
  | .register _ | .unregister _ => none

variable [Served β]

def Change.registered? : Change β → Option String
  | .register b => some (Served.name b)
  | .unregister _ | .configure _ => none

def step (r : Registry β) : Change β → Registry β
  | .register b => r.register b
  | .unregister name => r.unregister name
  | .configure c => r.configure c

def run (r : Registry β) : List (Change β) → Registry β
  | [] => r
  | c :: rest => (r.step c).run rest

theorem run_append (r : Registry β) (first second : List (Change β)) :
    r.run (first ++ second) = (r.run first).run second := by
  induction first generalizing r with
  | nil => rfl
  | cons c rest ih => exact ih (r.step c)

theorem run_concat (r : Registry β) (changes : List (Change β)) (c : Change β) :
    r.run (changes ++ [c]) = (r.run changes).step c := by
  rw [run_append, run, run]

/-! ## What a history says about a name -/

/-- Call number `i` registers this backend under the name. -/
def RegisteredAt (changes : List (Change β)) (name : String) (i : Nat) (b : β) : Prop :=
  changes[i]? = some (.register b) ∧ Served.name b = name

/-- The name was registered and not unregistered since. -/
def Listed (changes : List (Change β)) (name : String) : Prop :=
  ∃ i b, RegisteredAt changes name i b ∧ ∀ j, i < j → changes[j]? ≠ some (.unregister name)

/-- Call number `i` is the last one that registers the name. -/
def LatestAt (changes : List (Change β)) (name : String) (i : Nat) (b : β) : Prop :=
  RegisteredAt changes name i b ∧ ∀ j other, RegisteredAt changes name j other → j ≤ i

/-- The first name was last registered after the second one was. -/
def Newer (changes : List (Change β)) (first second : String) : Prop :=
  ∀ i j b c, LatestAt changes first i b → LatestAt changes second j c → j < i

section OneMoreCall

theorem getElem?_concat_eq_some_iff {α : Type} {l : List α} {x a : α} {i : Nat} :
    (l ++ [x])[i]? = some a ↔ l[i]? = some a ∨ (i = l.length ∧ x = a) := by
  rw [List.getElem?_append]
  by_cases hi : i < l.length
  · rw [if_pos hi]
    constructor
    · intro h
      exact Or.inl h
    · rintro (h | ⟨rfl, -⟩)
      · exact h
      · exact absurd hi (Nat.lt_irrefl _)
  · rw [if_neg hi, List.getElem?_eq_none (Nat.le_of_not_lt hi), List.getElem?_singleton]
    constructor
    · intro h
      split at h
      · exact Or.inr ⟨by omega, Option.some.inj h⟩
      · cases h
    · rintro (h | ⟨rfl, rfl⟩)
      · cases h
      · simp

variable {changes : List (Change β)} {c : Change β} {name : String} {i : Nat} {b : β}

theorem lt_of_registeredAt (h : RegisteredAt changes name i b) : i < changes.length :=
  (List.getElem?_eq_some_iff.mp h.1).1

theorem registeredAt_concat :
    RegisteredAt (changes ++ [c]) name i b ↔
      RegisteredAt changes name i b ∨
        (i = changes.length ∧ c = .register b ∧ Served.name b = name) := by
  simp only [RegisteredAt, getElem?_concat_eq_some_iff, or_and_right, and_assoc]

/-- A name is listed after one more call if the call registers it, or if it was listed before and
the call does not unregister it. -/
theorem listed_concat :
    Listed (changes ++ [c]) name ↔
      (∃ b, c = .register b ∧ Served.name b = name) ∨
        (Listed changes name ∧ c ≠ .unregister name) := by
  constructor
  · rintro ⟨i, b, hregistered, hkept⟩
    rcases registeredAt_concat.mp hregistered with hold | ⟨-, hc, hname⟩
    · refine Or.inr ⟨⟨i, b, hold, ?_⟩, ?_⟩
      · intro j hj hgone
        exact hkept j hj (getElem?_concat_eq_some_iff.mpr (Or.inl hgone))
      · intro hgone
        exact hkept changes.length (lt_of_registeredAt hold)
          (getElem?_concat_eq_some_iff.mpr (Or.inr ⟨rfl, hgone⟩))
    · exact Or.inl ⟨b, hc, hname⟩
  · rintro (⟨b, hc, hname⟩ | ⟨⟨i, b, hold, hkept⟩, hc⟩)
    · refine ⟨changes.length, b, registeredAt_concat.mpr (Or.inr ⟨rfl, hc, hname⟩), ?_⟩
      intro j hj hgone
      have hlt := (List.getElem?_eq_some_iff.mp hgone).1
      rw [List.length_append, List.length_singleton] at hlt
      omega
    · refine ⟨i, b, registeredAt_concat.mpr (Or.inl hold), ?_⟩
      intro j hj hgone
      rcases getElem?_concat_eq_some_iff.mp hgone with hbefore | ⟨-, hlast⟩
      · exact hkept j hj hbefore
      · exact hc hlast

theorem latestAt_concat_of_ne (h : c.registered? ≠ some name) :
    LatestAt (changes ++ [c]) name i b ↔ LatestAt changes name i b := by
  have hsame : ∀ j other,
      RegisteredAt (changes ++ [c]) name j other ↔ RegisteredAt changes name j other := by
    intro j other
    rw [registeredAt_concat]
    apply or_iff_left
    rintro ⟨-, rfl, rfl⟩
    exact h rfl
  simp only [LatestAt, hsame]

theorem latestAt_concat_register {x : β} :
    LatestAt (changes ++ [.register x]) (Served.name x) i b ↔ i = changes.length ∧ b = x := by
  have hlast : RegisteredAt (changes ++ [.register x]) (Served.name x) changes.length x :=
    registeredAt_concat.mpr (Or.inr ⟨rfl, rfl, rfl⟩)
  constructor
  · rintro ⟨hregistered, hlatest⟩
    rcases registeredAt_concat.mp hregistered with hold | ⟨hi, hc, -⟩
    · have hle := hlatest _ _ hlast
      have hlt := lt_of_registeredAt hold
      omega
    · cases hc
      exact ⟨hi, rfl⟩
  · rintro ⟨rfl, rfl⟩
    refine ⟨hlast, ?_⟩
    intro j other hother
    have hlt := lt_of_registeredAt hother
    rw [List.length_append, List.length_singleton] at hlt
    omega

theorem newer_concat_of_ne {first second : String}
    (hfirst : c.registered? ≠ some first) (hsecond : c.registered? ≠ some second) :
    Newer (changes ++ [c]) first second ↔ Newer changes first second := by
  simp only [Newer, latestAt_concat_of_ne hfirst, latestAt_concat_of_ne hsecond]

end OneMoreCall

/-! ## What a registry owes to its history -/

/-- The names and backends of a registry are those of a history. -/
structure Reflects (changes : List (Change β)) (r : Registry β) : Prop where
  nodup : r.names.Nodup
  mem_names : ∀ name, name ∈ r.names ↔ Listed changes name
  newer : r.names.Pairwise (Newer changes)
  get?_eq : ∀ name b, r.get? name = some b ↔
    Listed changes name ∧ ∃ i, LatestAt changes name i b

theorem reflects_empty (domain : String) : Reflects [] (empty domain : Registry β) := by
  have hnone : ∀ name, ¬Listed ([] : List (Change β)) name := by
    rintro name ⟨i, b, ⟨hcall, -⟩, -⟩
    cases hcall
  refine ⟨List.nodup_nil, ?_, List.Pairwise.nil, ?_⟩
  · intro name
    exact iff_of_false List.not_mem_nil (hnone name)
  · intro name b
    exact iff_of_false (by simp) fun h => hnone name h.1

variable {changes : List (Change β)} {r : Registry β}

theorem reflects_register (h : Reflects changes r) (x : β) :
    Reflects (changes ++ [.register x]) (r.register x) := by
  have hne : ∀ {name : String}, name ≠ Served.name x →
      (Change.register x : Change β).registered? ≠ some name := by
    intro name hname hsame
    exact hname (Option.some.inj hsame).symm
  have hlisted : ∀ name, Listed (changes ++ [.register x]) name ↔
      name = Served.name x ∨ Listed changes name := by
    intro name
    rw [listed_concat]
    simp [eq_comm]
  refine ⟨?_, ?_, ?_, ?_⟩
  · rw [names_register, List.nodup_cons]
    exact ⟨by simp, h.nodup.filter _⟩
  · intro name
    rw [names_register, hlisted, List.mem_cons, List.mem_filter, h.mem_names]
    by_cases hname : name = Served.name x <;> simp [hname]
  · rw [names_register, List.pairwise_cons]
    constructor
    · intro other hother i j b c hfirst hsecond
      have hother : other ≠ Served.name x := by simpa using (List.mem_filter.mp hother).2
      rw [latestAt_concat_register] at hfirst
      rw [latestAt_concat_of_ne (hne hother)] at hsecond
      have hlt := lt_of_registeredAt hsecond.1
      omega
    · refine (h.newer.filter _).imp_of_mem ?_
      intro first second hfirst hsecond hnewer
      have hfirst : first ≠ Served.name x := by simpa using (List.mem_filter.mp hfirst).2
      have hsecond : second ≠ Served.name x := by simpa using (List.mem_filter.mp hsecond).2
      exact (newer_concat_of_ne (hne hfirst) (hne hsecond)).mpr hnewer
  · intro name b
    rw [hlisted]
    by_cases hname : name = Served.name x
    · subst hname
      rw [get?_register_self]
      simp only [latestAt_concat_register, true_or, true_and, exists_eq_left, Option.some.injEq,
        eq_comm]
    · rw [get?_register_of_ne r hname, h.get?_eq]
      simp only [latestAt_concat_of_ne (hne hname), hname, false_or]

theorem reflects_unregister (h : Reflects changes r) (gone : String) :
    Reflects (changes ++ [.unregister gone]) (r.unregister gone) := by
  have hne : ∀ name, (Change.unregister gone : Change β).registered? ≠ some name := by
    intro name h
    cases h
  have hlisted : ∀ name, Listed (changes ++ [.unregister gone]) name ↔
      Listed changes name ∧ name ≠ gone := by
    intro name
    rw [listed_concat]
    simp [eq_comm]
  refine ⟨?_, ?_, ?_, ?_⟩
  · rw [names_unregister]
    exact h.nodup.filter _
  · intro name
    rw [names_unregister, hlisted, List.mem_filter, h.mem_names, bne_iff_ne]
  · rw [names_unregister]
    refine (h.newer.filter _).imp ?_
    intro first second hnewer
    exact (newer_concat_of_ne (hne first) (hne second)).mpr hnewer
  · intro name b
    rw [hlisted]
    simp only [latestAt_concat_of_ne (hne name)]
    by_cases hname : name = gone
    · subst hname
      simp [get?_unregister_self]
    · rw [get?_unregister_of_ne r hname, h.get?_eq]
      simp [hname]

theorem reflects_configure (h : Reflects changes r) (config : Config) :
    Reflects (changes ++ [.configure config]) (r.configure config) := by
  have hne : ∀ name, (Change.configure config : Change β).registered? ≠ some name := by
    intro name h
    cases h
  have hlisted : ∀ name, Listed (changes ++ [.configure config]) name ↔ Listed changes name := by
    intro name
    rw [listed_concat]
    simp
  refine ⟨h.nodup, ?_, ?_, ?_⟩
  · intro name
    rw [names_configure, hlisted, h.mem_names]
  · rw [names_configure]
    refine h.newer.imp ?_
    intro first second hnewer
    exact (newer_concat_of_ne (hne first) (hne second)).mpr hnewer
  · intro name b
    rw [get?_configure, hlisted, h.get?_eq]
    simp only [latestAt_concat_of_ne (hne name)]

theorem reflects_step (h : Reflects changes r) (c : Change β) :
    Reflects (changes ++ [c]) (r.step c) := by
  cases c with
  | register x => exact reflects_register h x
  | unregister gone => exact reflects_unregister h gone
  | configure config => exact reflects_configure h config

theorem reflects_run (domain : String) (changes : List (Change β)) :
    Reflects changes ((empty domain : Registry β).run changes) := by
  -- The history grows at its end, so the induction takes calls off there.
  induction changes using List.reverseRecOn with
  | nil => exact reflects_empty domain
  | append_singleton changes c ih =>
    rw [run_concat]
    exact reflects_step ih c

/-! ## Settings and answers -/

def lastConfig (changes : List (Change β)) : Option Config :=
  (changes.filterMap Change.config?).getLast?

/-- A registry without backends after the last configuration of a history. -/
def settled (domain : String) (changes : List (Change β)) : Registry β :=
  (lastConfig changes).elim (empty domain) (empty domain).configure

theorem domain_step (r : Registry β) (c : Change β) : (r.step c).domain = r.domain := by
  cases c <;> rfl

theorem domain_run (r : Registry β) (changes : List (Change β)) :
    (r.run changes).domain = r.domain := by
  induction changes generalizing r with
  | nil => rfl
  | cons c rest ih => rw [run, ih, domain_step]

theorem settings_step_of_config?_eq_none (r : Registry β) {c : Change β} (h : c.config? = none) :
    (r.step c).preference = r.preference ∧ (r.step c).strict = r.strict := by
  cases c with
  | register b => exact ⟨rfl, rfl⟩
  | unregister name => exact ⟨rfl, rfl⟩
  | configure c => cases h

theorem settings_run (domain : String) (changes : List (Change β)) :
    ((empty domain : Registry β).run changes).preference =
        (settled domain changes : Registry β).preference ∧
      ((empty domain : Registry β).run changes).strict =
        (settled domain changes : Registry β).strict := by
  induction changes using List.reverseRecOn with
  | nil => exact ⟨rfl, rfl⟩
  | append_singleton changes c ih =>
    rw [run_concat]
    cases hc : c.config? with
    | none =>
      have hsettled : settled domain (changes ++ [c]) = (settled domain changes : Registry β) := by
        simp [settled, lastConfig, List.filterMap_append, hc]
      rw [hsettled]
      obtain ⟨hpreference, hstrict⟩ :=
        settings_step_of_config?_eq_none (run (empty domain) changes) hc
      exact ⟨hpreference.trans ih.1, hstrict.trans ih.2⟩
    | some config =>
      have hsettled : settled domain (changes ++ [c]) =
          ((empty domain).configure config : Registry β) := by
        simp [settled, lastConfig, List.filterMap_append, hc]
      have hconfigure : c = .configure config := by
        cases c with
        | register b => cases hc
        | unregister name => cases hc
        | configure given => exact congrArg Change.configure (Option.some.inj hc)
      rw [hsettled, hconfigure]
      refine ⟨?_, rfl⟩
      dsimp only [step, configure]
      rw [domain_run]

theorem length_names (r : Registry β) : r.names.length = r.backends.length := List.length_map _

theorem names_unregister_eq_erase (h : r.names.Nodup) (name : String) :
    (r.unregister name).names = r.names.erase name := by
  rw [names_unregister, h.erase_eq_filter]

theorem lists_iff_length_unregister (h : r.names.Nodup) (name : String) :
    r.lists name = true ↔ (r.unregister name).backends.length ≠ r.backends.length := by
  rw [lists_iff, ← length_names, ← length_names, names_unregister_eq_erase h]
  constructor
  · intro hmem
    have hpositive := List.length_pos_of_mem hmem
    rw [List.length_erase_of_mem hmem]
    omega
  · intro hlength
    by_contra hmem
    exact hlength (by rw [List.erase_of_not_mem hmem])

/-- The names of a registry are those that were registered after they were last unregistered, each
once and the latest registration first, and a name stands for the backend that was last registered
under it. Unregistering answers whether the name was there and takes out that name alone. A
configuration concerns the settings, and no other call does. -/
theorem run_precedence (domain : String) (changes : List (Change β)) :
    let r := (empty domain : Registry β).run changes
    (r.names.Nodup ∧ (∀ name, name ∈ r.names ↔ Listed changes name) ∧
      r.names.Pairwise (Newer changes)) ∧
    (∀ name, (∀ b, r.get? name = some b ↔ name ∈ r.names ∧ ∃ i, LatestAt changes name i b) ∧
      (r.get? name = none ↔ name ∉ r.names)) ∧
    (∀ name, (r.lists name = true ↔ name ∈ r.names) ∧
      (r.lists name = true ↔ (r.unregister name).backends.length ≠ r.backends.length) ∧
      (r.unregister name).names = r.names.erase name ∧
      ∀ other, other ≠ name → (r.unregister name).get? other = r.get? other) ∧
    (∀ c, (r.configure c).names = r.names ∧ ∀ name, (r.configure c).get? name = r.get? name) ∧
    (r.preference = (settled domain changes : Registry β).preference ∧
      r.strict = (settled domain changes : Registry β).strict) ∧
    ∀ c : Change β, c.config? = none →
      (r.step c).preference = r.preference ∧ (r.step c).strict = r.strict := by
  intro r
  have h : Reflects changes r := reflects_run domain changes
  refine ⟨⟨h.nodup, h.mem_names, h.newer⟩, ?_, ?_, ?_, settings_run domain changes, ?_⟩
  · intro name
    constructor
    · intro b
      rw [h.get?_eq, h.mem_names]
    · rw [get?, List.find?_eq_none, names, List.mem_map]
      simp
  · intro name
    refine ⟨lists_iff r name, lists_iff_length_unregister h.nodup name,
      names_unregister_eq_erase h.nodup name, ?_⟩
    intro other hother
    exact get?_unregister_of_ne r hother
  · intro c
    exact ⟨names_configure r c, get?_configure r c⟩
  · intro c hc
    exact settings_step_of_config?_eq_none r hc

end Registry

end Offload
