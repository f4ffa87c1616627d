import Offload.Proofs.Config.Overrides

/-!
# The layers of a configuration

Below the environment lies the configuration of the file that it names, or the defaults.
`load_layers` says when these make a configuration, and which: each setting is what its variable
asks for if that is set, and otherwise what lies below. Every configuration that is handed out is
consistent.
-/

set_option autoImplicit false

namespace Offload

/-! ## Values of variables -/

theorem fromUTF8?_eq_some_iff {bytes : ByteArray} {s : String} :
    String.fromUTF8? bytes = some s ↔ bytes = s.toUTF8 := by
  unfold String.fromUTF8?
  constructor
  · intro h
    split at h
    · obtain rfl := Option.some.inj h
      rfl
    · cases h
  · rintro rfl
    have hvalid : s.toUTF8.IsValidUTF8 := s.isValidUTF8
    rw [dif_pos hvalid]
    rfl

theorem Environment.ofBytes_eq_some_iff {values : Variable → Option ByteArray} {v : Variable}
    {s : String} : Environment.ofBytes values v = some s ↔ values v = some s.toUTF8 := by
  simp only [Environment.ofBytes, Option.bind_eq_some_iff, fromUTF8?_eq_some_iff, exists_eq_right]

namespace Config

variable {decode : Decoder} {files : Files} {env : Environment} {c : Config} {path : String}

/-! ## Below the environment -/

/-- What lies below the environment: a file that it names has to be there, to be well formed and to
be consistent. -/
inductive Below (decode : Decoder) (files : Files) (env : Environment) : Config → Prop
  | defaults (hnone : ∀ path, env .configFile = some path → path = "") : Below decode files env {}
  | file {path text : String} {c : Config} (hnamed : env .configFile = some path)
      (hnonempty : path ≠ "") (hreads : files path = .ok text) (hdecodes : decode text = .ok c)
      (hconsistent : c.Consistent) : Below decode files env c

theorem ofFile_eq_ok_iff :
    ofFile decode files path = .ok c ↔
      ∃ text, files path = .ok text ∧ decode text = .ok c ∧ c.Consistent := by
  unfold ofFile
  cases files path with
  | error reason => simp
  | ok text =>
    simp only [Except.ok.injEq, exists_eq_left']
    cases decode text with
    | error reason => simp
    | ok found =>
      simp only [checked_eq_ok_iff, Except.ok.injEq]
      constructor
      · rintro ⟨hconsistent, rfl⟩
        exact ⟨rfl, hconsistent⟩
      · rintro ⟨rfl, hconsistent⟩
        exact ⟨hconsistent, rfl⟩

theorem base_eq_ok_iff : base decode files env = .ok c ↔ Below decode files env c := by
  unfold base
  constructor
  · intro h
    cases hnamed : env .configFile with
    | none =>
      rw [hnamed] at h
      cases h
      exact .defaults (by simp [hnamed])
    | some path =>
      simp only [hnamed] at h
      by_cases hempty : path = ""
      · rw [if_pos hempty] at h
        cases h
        exact .defaults (by simp [hnamed, hempty])
      · rw [if_neg hempty, ofFile_eq_ok_iff] at h
        obtain ⟨text, hreads, hdecodes, hconsistent⟩ := h
        exact .file hnamed hempty hreads hdecodes hconsistent
  · intro h
    cases h with
    | defaults hnone =>
      cases hnamed : env .configFile with
      | none => rfl
      | some path => simp [hnone path hnamed]
    | file hnamed hnonempty hreads hdecodes hconsistent =>
      simp only [hnamed, if_neg hnonempty]
      exact ofFile_eq_ok_iff.mpr ⟨_, hreads, hdecodes, hconsistent⟩

/-! ## With the environment -/

theorem underEnvironment_eq_ok_iff {below : Config} :
    underEnvironment env below = .ok c ↔ Layered env below c ∧ c.Consistent := by
  rw [← applied_iff, underEnvironment]
  rcases applyEnvironment env below with ⟨_ | ⟨⟩, after⟩ <;> simp

theorem load_eq_ok_iff :
    load decode files env = .ok c ↔
      ∃ below, Below decode files env below ∧ Layered env below c ∧ c.Consistent := by
  simp only [← base_eq_ok_iff, ← underEnvironment_eq_ok_iff]
  unfold load
  cases base decode files env <;> simp

theorem exists_overridden_iff {α : Type} {v : Variable} {Asks : String → α → Prop} {before : α} :
    (∃ after, Overridden env v Asks before after) ↔ ∀ s, env v = some s → ∃ after, Asks s after := by
  unfold Overridden
  cases env v with
  | none => simp
  | some s => simp

theorem exists_names (s : String) : ∃ backend, Names s backend :=
  ⟨backendOfText s, backendOfText_eq_iff.mp rfl⟩

theorem exists_layered_iff {below : Config} :
    (∃ c, Layered env below c) ↔
      (∀ s, env .device = some s → ∃ device, AsksFor s device) ∧
        ∀ s, env .strict = some s → ∃ b, Spells s b := by
  constructor
  · rintro ⟨c, h⟩
    exact ⟨exists_overridden_iff.mp ⟨_, h.device⟩, exists_overridden_iff.mp ⟨_, h.strict⟩⟩
  · rintro ⟨hdevice, hstrict⟩
    obtain ⟨device, hdevice⟩ := exists_overridden_iff.mpr hdevice
    obtain ⟨strict, hstrict⟩ := exists_overridden_iff.mpr hstrict
    obtain ⟨blas, hblas⟩ := exists_overridden_iff.mpr fun s _ => exists_names s
    obtain ⟨dft, hdft⟩ := exists_overridden_iff.mpr fun s _ => exists_names s
    exact ⟨⟨device, strict, ⟨blas, below.blas.enabled⟩, ⟨dft, below.dft.enabled⟩⟩,
      hdevice, hstrict, hblas, hdft, rfl, rfl⟩

/-- A configuration is loaded if what lies below the environment is there, the environment can be
read, and what they make together is consistent; then it is that. A value that is no text is as good
as none. Whatever is handed out is consistent, and where faults are passed over it is what is loaded
or the defaults. -/
theorem load_layers (decode : Decoder) (files : Files) (values : Variable → Option ByteArray) :
    let env := Environment.ofBytes values
    (∀ v s, env v = some s ↔ values v = some s.toUTF8) ∧
    (∀ c, load decode files env = .ok c ↔
      ∃ below, Below decode files env below ∧ Layered env below c ∧ c.Consistent) ∧
    (∀ below, (∃ c, Layered env below c) ↔
      (∀ s, env .device = some s → ∃ device, Device.Spec.parse s = .ok device) ∧
        ∀ s, env .strict = some s → ∃ b, Spells s b) ∧
    (∀ c, ((∃ path, ofFile decode files path = .ok c) ∨ ofEnvironment env = .ok c ∨
      load decode files env = .ok c) → c.Consistent) ∧
    ((∃ c, load decode files env = .ok c ∧ loadOrDefault decode files env = c) ∨
      (∃ e, load decode files env = .error e) ∧ loadOrDefault decode files env = {}) := by
  intro env
  refine ⟨fun v s => Environment.ofBytes_eq_some_iff, fun c => load_eq_ok_iff,
    fun below => exists_layered_iff, ?_, ?_⟩
  · rintro c (⟨path, hfile⟩ | henvironment | hload)
    · obtain ⟨text, -, -, hconsistent⟩ := ofFile_eq_ok_iff.mp hfile
      exact hconsistent
    · exact (underEnvironment_eq_ok_iff.mp henvironment).2
    · obtain ⟨below, -, -, hconsistent⟩ := load_eq_ok_iff.mp hload
      exact hconsistent
  · unfold loadOrDefault
    cases load decode files env with
    | ok c => exact .inl ⟨c, rfl, rfl⟩
    | error e => exact .inr ⟨⟨e, rfl⟩, rfl⟩

def mixed : Variable → Option ByteArray
  | .configFile => some "f.toml".toUTF8
  | .device => some ⟨#[0xff]⟩
  | .dftBackend => some " Reference ".toUTF8
  | _ => none

theorem load_layers_mixed :
    load File.decode (fun _ => .ok "[dft]\nbackend = \"rocfft\"\n") (.ofBytes mixed) =
      .ok { dft := { backend := some "reference" } } := by
  obtain ⟨hset, hload, -⟩ :=
    load_layers File.decode (fun _ => .ok "[dft]\nbackend = \"rocfft\"\n") mixed
  have hbelow : ({ dft := { backend := some "rocfft" } } : Config).Consistent :=
    validate_eq_ok_iff.mp rfl
  refine (hload _).mpr ⟨{ dft := { backend := some "rocfft" } }, ?_, ?_, validate_eq_ok_iff.mp rfl⟩
  · exact .file ((hset .configFile "f.toml").mpr rfl) (by decide) rfl (by decide +kernel) hbelow
  · have hname : Environment.ofBytes mixed .dftBackend = some " Reference " :=
      (hset .dftBackend _).mpr rfl
    refine ⟨rfl, rfl, rfl, ?_, rfl, rfl⟩
    rw [Overridden, hname]
    exact backendOfText_eq_iff.mp rfl

end Config

end Offload
