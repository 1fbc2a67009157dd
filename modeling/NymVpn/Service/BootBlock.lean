import NymVpn.Firewall.BootGuard
import NymVpn.Service.Manager

/-!
# The boot guard and the daemon

Both read the kill-switch from one file. The guard looks at two keys, and takes a key it does
not find for the daemon's default. The daemon reads the file as one of its versions, and a
file that is none of them gives the defaults.
-/

namespace Serde

variable {entries : List (String × Json)} {name tag : String}

theorem valuesOf_without (h : name ≠ tag) :
    valuesOf name (without tag entries) = valuesOf name entries := by
  induction entries with
  | nil => rfl
  | cons e entries ih =>
    obtain ⟨k, v⟩ := e
    by_cases hk : k = tag
    · have hname : k ≠ name := fun h' => h (h'.symm.trans hk)
      rw [without, List.filter_cons_of_neg (by simp [hk]), valuesOf_cons, if_neg hname]
      exact ih
    · rw [without, List.filter_cons_of_pos (by simp [hk]), valuesOf_cons, valuesOf_cons]
      exact congrArg (fun l => if k = name then v :: l else l) ih

theorem valuesOf_of_withDefault {i : ℕ} {default b : Bool}
    (h : (Fields.map entries).withDefault i name default = some b) :
    valuesOf name entries = [] ∧ b = default ∨ valuesOf name entries = [.bool b] := by
  match hv : valuesOf name entries with
  | [] =>
    rw [Fields.withDefault_map_absent hv] at h
    exact .inl ⟨rfl, (Option.some.inj h).symm⟩
  | [v] =>
    rw [Fields.withDefault_map hv] at h
    cases v with
    | bool b' =>
      obtain rfl : b' = b := Option.some.inj h
      exact .inr rfl
    | _ => nomatch h
  | _ :: _ :: _ => simp [Fields.withDefault, Fields.get, hv] at h

end Serde

namespace VpnService

open Serde NymFirewall.BootGuard VpnServiceConfigManager VpnServiceConfigExt

/-! ## What the daemon loads -/

def VpnServiceConfigExt.effectiveKillswitch : VpnServiceConfigExt → Bool
  | .v8 c => c.killswitch && !c.legacySplitTunnel
  | .v2 _ => true
  | _ => false

theorem VpnServiceConfigExt.effectiveKillswitch_eq {t : TextForms} {e : VpnServiceConfigExt}
    {c : VpnServiceConfig} (h : e.tryInto t = .ok c) :
    c.effectiveKillswitch = e.effectiveKillswitch := by
  have hm : Migrates e.version (e.setting? t) c := e.migrates h
  by_cases hv : e.version = .v8
  · have hkill := (hm.stored_eq (s := .killswitch) (by rw [hv]; rfl)).symm
    have hlegacy := (hm.stored_eq (s := .legacySplitTunnel) (by rw [hv]; rfl)).symm
    cases e with
    | v8 stored =>
      have hkill : c.killswitch = stored.killswitch := Option.some.inj hkill
      have hlegacy : c.legacySplitTunnel = stored.legacySplitTunnel := Option.some.inj hlegacy
      rw [VpnServiceConfig.effectiveKillswitch, hkill, hlegacy]
      rfl
    | _ => nomatch hv
  · have hlegacy : c.legacySplitTunnel = false := by
      have hs : e.version.stores .legacySplitTunnel = false := by
        cases e with
        | v8 stored => exact absurd rfl hv
        | _ => rfl
      exact hm.setting_eq_absent hs
    rw [VpnServiceConfig.effectiveKillswitch, hm.killswitch_eq hv, hlegacy]
    cases e with
    | v8 stored => exact absurd rfl hv
    | _ => rfl

theorem Legacy.VpnServiceConfig.effectiveKillswitch_eq_false {t : TextForms}
    {c : Legacy.VpnServiceConfig} {c' : VpnService.VpnServiceConfig} (h : c.tryInto t = .ok c') :
    c'.effectiveKillswitch = false := by
  simp only [tryInto, bind_eq_ok] at h
  obtain ⟨_, -, _, -, hc'⟩ := h
  cases hc'
  rfl

def loaded (t : TextForms) (j : Json) : Option VpnServiceConfigExt :=
  (fromJson j).filter fun e => (e.tryInto t).isOk

section Load

variable {parse : String → Option Json}

def jsonFile (parse : String → Option Json) : SettingsFile → JsonFile
  | .unreadable => .unreadable
  | .text s =>
    match parse s with
    | none => .malformed
    | some j => .json j

variable {t : TextForms} {outcome : StartOutcome} {toml : Option TomlFile}
  {bak : Option JsonFile}

theorem config_new (disk : Disk) :
    (new t outcome disk).config = (load t outcome.stashed disk).1 := by
  rw [new]
  by_cases h : (load t outcome.stashed disk).2.1 = some .latest
  · simp only [h, ne_eq, not_true_eq_false, if_false]
  · simp only [h, ne_eq, not_false_eq_true, if_true, config_writeToFile]

/-- The kill-switch in force after a stored form is read; a failure gives the defaults. -/
def startsOn (read : Except ReadError (VpnServiceConfig × Option VpnServiceConfigVersion)) : Bool :=
  match read with
  | .ok (c, _) => c.effectiveKillswitch
  | .error _ => true

theorem effectiveKillswitch_new (disk : Disk) :
    (new t outcome disk).config.effectiveKillswitch = startsOn (readFromFile t disk) := by
  rw [config_new, load]
  cases readFromFile t disk <;> rfl

theorem startsOn_convert (read : Except ConfigSetupError VpnServiceConfig)
    (version : Option VpnServiceConfigVersion) :
    startsOn (do return (← read.mapError .convert, version)) =
      read.toOption.elim true VpnServiceConfig.effectiveKillswitch := by
  cases read <;> rfl

theorem effectiveKillswitch_document (j : Json) :
    (new t outcome
        ⟨some (.json j), toml, bak⟩).config.effectiveKillswitch =
      (loaded t j).elim true effectiveKillswitch := by
  rw [effectiveKillswitch_new]
  simp only [readFromFile, loaded]
  cases fromJson (α := VpnServiceConfigExt) j with
  | none => rfl
  | some e =>
    simp only [startsOn_convert]
    cases he : e.tryInto t with
    | error err => simp [he, Except.toOption, Option.filter, Except.isOk, Except.toBool]
    | ok c =>
      rw [Option.filter_some, if_pos (by simp [he, Except.isOk, Except.toBool])]
      exact e.effectiveKillswitch_eq he

theorem effectiveKillswitch_file (file : SettingsFile) :
    (new t outcome
        ⟨some (jsonFile parse file), toml, bak⟩).config.effectiveKillswitch =
      ((file.json? parse).bind (loaded t)).elim true effectiveKillswitch := by
  cases file with
  | unreadable =>
    rw [effectiveKillswitch_new]
    rfl
  | text s =>
    rw [jsonFile, SettingsFile.json?]
    cases parse s with
    | none =>
      rw [effectiveKillswitch_new]
      rfl
    | some j => exact effectiveKillswitch_document j

theorem effectiveKillswitch_no_file :
    (new t outcome ⟨none, toml, bak⟩).config.effectiveKillswitch = true ↔
      ∀ c, toml = some (.legacy c) → (c.tryInto t).isOk = false := by
  rw [effectiveKillswitch_new]
  match toml with
  | none | some .unreadable | some .malformed => exact iff_of_true rfl nofun
  | some (.legacy c) =>
    simp only [readFromFile, startsOn_convert, Option.some.injEq, TomlFile.legacy.injEq]
    rw [forall_eq']
    cases hc : c.tryInto t with
    | error err => exact ⟨fun _ => rfl, fun _ => rfl⟩
    | ok c' =>
      simp [Except.toOption, c.effectiveKillswitch_eq_false hc, Except.isOk, Except.toBool]

end Load

/-! ## What the guard reads -/

section Guard

variable {parse : String → Option Json} {b : BootState} {file : SettingsFile}

variable {entries : List (String × Json)} {c : V8.VpnServiceConfig} {content : Json} {t : TextForms}

theorem nymConfigBool_obj {key : String} (hconfig : b.config = some file)
    (hfilter : b.hasJsonfilter = true) (hj : file.json? parse = some (.obj entries)) :
    nymConfigBool parse key b =
      ((valuesOf key entries).getLast?).elim .absent ConfigBool.ofJson := by
  rw [nymConfigBool, hconfig]
  simp only [hfilter, if_true, SettingsFile.filtered, hj, Option.bind_some, jsonfilter]
  cases (valuesOf key entries).getLast? <;> rfl

theorem V8.VpnServiceConfig.switches_of_ofFields {src : Fields} (h : ofFields src = some c) :
    src.withDefault 14 "killswitch" true = some c.killswitch ∧
      src.withDefault 15 "legacy_split_tunnel" false = some c.legacySplitTunnel := by
  -- The fields are read in order; the switches are the fifteenth and the sixteenth.
  iterate 14 obtain ⟨_, -, h⟩ := Option.bind_eq_some_iff.1 h
  obtain ⟨killswitch, hkill, h⟩ := Option.bind_eq_some_iff.1 h
  obtain ⟨legacy, hlegacy, h⟩ := Option.bind_eq_some_iff.1 h
  iterate 4 obtain ⟨_, -, h⟩ := Option.bind_eq_some_iff.1 h
  cases h
  exact ⟨hkill, hlegacy⟩

theorem VpnServiceConfigExt.fromJson_of_ofTagged {name : String}
    (h : ofTagged content name = some (.v8 c)) : fromJson content = some c := by
  unfold ofTagged at h
  split at h <;> simp_all

theorem exists_without_of_tagged {tag name : String}
    (h : (Json.obj entries).tagged tag = some (name, content)) :
    content = .obj (without tag entries) := by
  simp only [Json.tagged] at h
  split at h
  · exact (Prod.mk.inj (Option.some.inj h)).2.symm
  · cases h

/-- What a document that is loaded as the current version says under the two keys. -/
theorem switches_of_loaded (h : loaded t (.obj entries) = some (.v8 c)) :
    (valuesOf "killswitch" entries = [] ∧ c.killswitch = true ∨
        valuesOf "killswitch" entries = [.bool c.killswitch]) ∧
      (valuesOf "legacy_split_tunnel" entries = [] ∧ c.legacySplitTunnel = false ∨
        valuesOf "legacy_split_tunnel" entries = [.bool c.legacySplitTunnel]) := by
  have hread : fromJson (α := VpnServiceConfigExt) (.obj entries) = some (.v8 c) :=
    (Option.filter_eq_some_iff.1 h).1
  obtain ⟨⟨name, content⟩, htagged, hversion⟩ := Option.bind_eq_some_iff.1 hread
  obtain rfl := exists_without_of_tagged htagged
  have hfields : V8.VpnServiceConfig.ofFields (.map (without "version" entries)) = some c :=
    fromJson_of_ofTagged hversion
  obtain ⟨hkill, hlegacy⟩ := V8.VpnServiceConfig.switches_of_ofFields hfields
  have hkill := valuesOf_of_withDefault hkill
  have hlegacy := valuesOf_of_withDefault hlegacy
  rw [valuesOf_without (by decide)] at hkill hlegacy
  exact ⟨hkill, hlegacy⟩

theorem saysOff_iff_of_loaded (hconfig : b.config = some file) (hfilter : b.hasJsonfilter = true)
    (hj : file.json? parse = some (.obj entries)) (h : loaded t (.obj entries) = some (.v8 c)) :
    b.SaysOff parse ↔ c.killswitch = false ∨ c.legacySplitTunnel = true := by
  obtain ⟨hkill, hlegacy⟩ := switches_of_loaded h
  have hno : nymConfigBool parse "killswitch" b = .no ↔ c.killswitch = false := by
    rw [nymConfigBool_obj hconfig hfilter hj]
    obtain ⟨hkill, hc⟩ | hkill := hkill
    · simp [hkill, hc]
    · cases hc : c.killswitch <;> simp [hkill, hc, ConfigBool.ofJson, ConfigBool.ofBool]
  have hyes : nymConfigBool parse "legacy_split_tunnel" b = .yes ↔ c.legacySplitTunnel = true := by
    rw [nymConfigBool_obj hconfig hfilter hj]
    obtain ⟨hlegacy, hc⟩ | hlegacy := hlegacy
    · simp [hlegacy, hc]
    · cases hc : c.legacySplitTunnel <;> simp [hlegacy, hc, ConfigBool.ofJson, ConfigBool.ofBool]
  rw [saysOff_iff, hno, hyes]

end Guard

/-! ## The two answers -/

section Agreement

variable (t : TextForms) (parse : String → Option Json)

/-- The condition on a document. One that gives the defaults, or that is of the version 2, has
no key that says that the kill-switch is off; one of the other versions before the current one
has one. An object of the current version is read alike by `jsonfilter`; in its text the keys
have to stand as the daemon reads them. -/
def DocumentReadAlike (b : BootState) (document : Option Json) :
    Option VpnServiceConfigExt → Prop
  | none | some (.v2 _) => ¬b.SaysOff parse
  | some (.v8 c) =>
    (b.hasJsonfilter = true ∧ ∃ entries, document = some (.obj entries)) ∨
      (b.SaysOff parse ↔ c.killswitch = false ∨ c.legacySplitTunnel = true)
  | some _ => b.SaysOff parse

/-- The files on which the guard and the daemon come to one answer. Where there is none, no
file of the first releases loads. -/
def ReadAlike (b : BootState) (toml : Option TomlFile) : Prop :=
  match b.config with
  | none => ∀ c, toml = some (.legacy c) → (c.tryInto t).isOk = false
  | some file =>
    DocumentReadAlike parse b (file.json? parse) ((file.json? parse).bind (loaded t))

variable {t parse}

theorem documentReadAlike_iff {b : BootState} {file : SettingsFile}
    (hconfig : b.config = some file) :
    (¬b.SaysOff parse ↔ ((file.json? parse).bind (loaded t)).elim true
        effectiveKillswitch = true) ↔
      DocumentReadAlike parse b (file.json? parse) ((file.json? parse).bind (loaded t)) := by
  cases hloaded : (file.json? parse).bind (loaded t) with
  | none => simp [DocumentReadAlike]
  | some e =>
    cases e with
    | v2 c => simp [DocumentReadAlike, effectiveKillswitch]
    | v8 c =>
      have hon : effectiveKillswitch (.v8 c) = true ↔
          ¬(c.killswitch = false ∨ c.legacySplitTunnel = true) := by
        simp [effectiveKillswitch]
      rw [Option.elim_some, hon, not_iff_not, DocumentReadAlike]
      refine ⟨.inr, fun h => h.elim (fun ⟨hfilter, entries, hj⟩ => ?_) id⟩
      rw [hj, Option.bind_some] at hloaded
      exact saysOff_iff_of_loaded hconfig hfilter hj hloaded
    | _ => simp [DocumentReadAlike, effectiveKillswitch]

variable (t parse)

theorem boot_block_agrees_iff (b : BootState) (hstopped : b.stopped = false)
    (henabled : b.enabledAtBoot = true) (outcome : StartOutcome) (toml : Option TomlFile)
    (bak : Option JsonFile) :
    ((nymBootBlockWanted parse b).wanted = true ↔
        (new t outcome
          ⟨b.config.map (jsonFile parse), toml, bak⟩).config.effectiveKillswitch = true) ↔
      ReadAlike t parse b toml := by
  have hwanted : (nymBootBlockWanted parse b).wanted = true ↔ ¬b.SaysOff parse := by
    simp [wanted_iff, hstopped, henabled]
  rw [hwanted, ReadAlike]
  cases hconfig : b.config with
  | none =>
    have hoff : ¬b.SaysOff parse := by simp [BootState.SaysOff, BootState.Assigns, hconfig]
    rw [iff_true_left hoff]
    exact effectiveKillswitch_no_file
  | some file =>
    rw [Option.map_some, effectiveKillswitch_file]
    exact documentReadAlike_iff hconfig

def versionEightText : String :=
  "\x7b\"version\":\"v8\",\"entry_point\":\"random\",\"exit_point\":\"random\"," ++
    "\"allow_lan\":false,\"disable_ipv6\":false,\"enable_two_hop\":true," ++
    "\"enable_bridges\":false,\"enable_lewes_protocol\":false,\"netstack\":false," ++
    "\"residential_exit\":false,\"enable_custom_dns\":false,\"custom_dns\":[]," ++
    "\"enable_ad_blocking\":false,\"mixnet_traffic\":\x7b\"disable_poisson_rate\":false," ++
    "\"disable_background_cover_traffic\":false\x7d,\"killswitch\":false\x7d"

def versionEightEntries : List (String × Json) :=
  [("version", .str "v8"), ("entry_point", .str "random"), ("exit_point", .str "random"),
    ("allow_lan", .bool false), ("disable_ipv6", .bool false), ("enable_two_hop", .bool true),
    ("enable_bridges", .bool false), ("enable_lewes_protocol", .bool false),
    ("netstack", .bool false), ("residential_exit", .bool false),
    ("enable_custom_dns", .bool false), ("custom_dns", .arr []),
    ("enable_ad_blocking", .bool false),
    ("mixnet_traffic", .obj [("disable_poisson_rate", .bool false),
      ("disable_background_cover_traffic", .bool false)]),
    ("killswitch", .bool false)]

def versionEightDocument (text : String) : Option Json :=
  if text = versionEightText then some (.obj versionEightEntries) else none

def startsWith (text : String) : BootState where
  stopped := false
  runtimeDirTrusted := true
  enabledAtBoot := true
  hasJsonfilter := true
  config := some (.text text)

/-- Both take the file of the current version for one that switches the kill-switch off. -/
theorem boot_block_agrees_versionEight :
    ((nymBootBlockWanted versionEightDocument (startsWith versionEightText)).wanted = true ↔
        (new plainForms ⟨true, .written, true⟩
          ⟨some (jsonFile versionEightDocument (.text versionEightText)), none, none⟩
            ).config.effectiveKillswitch = true) ∧
      (startsWith versionEightText).SaysOff versionEightDocument := by
  have hdocument : versionEightDocument versionEightText = some (.obj versionEightEntries) :=
    if_pos rfl
  -- Nothing else is needed of the text.
  generalize versionEightDocument = parse, versionEightText = text at hdocument ⊢
  refine ⟨(boot_block_agrees_iff plainForms parse (startsWith text) rfl rfl
    ⟨true, .written, true⟩ none none).2 ?_, Or.inl ?_⟩
  · obtain ⟨c, hc⟩ : ∃ c, loaded plainForms (.obj versionEightEntries) = some (.v8 c) := ⟨_, rfl⟩
    change DocumentReadAlike _ _ (parse text) ((parse text).bind (loaded plainForms))
    rw [hdocument, Option.bind_some, hc]
    exact Or.inl ⟨rfl, _, rfl⟩
  · change DocumentAssigns "killswitch" false (parse text)
    rw [hdocument]
    exact ⟨versionEightEntries.dropLast, .bool false, [], rfl, nofun, rfl⟩

def versionOneText : String :=
  "\x7b\"version\":\"v1\",\"entry_point\":\"random\",\"exit_point\":\"random\"\x7d"

def noVersionText : String := "\x7b\"killswitch\":false\x7d"

def sampleDocument (text : String) : Option Json :=
  if text = versionOneText then
    some (.obj [("version", .str "v1"), ("entry_point", .str "random"),
      ("exit_point", .str "random")])
  else if text = noVersionText then some (.obj [("killswitch", .bool false)])
  else none

/-- A file of the version 1 is blocked for a daemon that will not block, and a file without
a version is not blocked although the daemon will. -/
theorem boot_block_disagrees :
    ((nymBootBlockWanted sampleDocument (startsWith versionOneText)).wanted = true ∧
      (new plainForms ⟨true, .written, true⟩
        ⟨some (jsonFile sampleDocument (.text versionOneText)),
          none, none⟩).config.effectiveKillswitch = false) ∧
      (nymBootBlockWanted sampleDocument (startsWith noVersionText)).wanted = false ∧
      (new plainForms ⟨true, .written, true⟩
        ⟨some (jsonFile sampleDocument (.text noVersionText)),
          none, none⟩).config.effectiveKillswitch = true := by
  refine ⟨⟨?_, ?_⟩, ?_, ?_⟩
  · rfl
  · rw [effectiveKillswitch_file]; rfl
  · rfl
  · rw [effectiveKillswitch_file]; rfl

end Agreement

end VpnService
