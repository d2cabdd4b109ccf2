import TrainFactory.Compose.SafeDown
import TrainFactory.Lib.Result

/-!
# Proofs: a cleanup removes what is the project's

What Docker lists is read as the names of the resources, so the checks before the removal say of
each volume and network whether it is the project's. The command removes what the configuration
declares: a volume that no service mounts may be declared under a name of its own, which none of the
checks sees.
-/

namespace Compose

open Lib

namespace SafeDown

/-! ## Listings -/

theorem toNat_of_isNameChar {c : Char} (h : isNameChar c = true) :
    (97 ≤ c.toNat ∧ c.toNat ≤ 122) ∨ (65 ≤ c.toNat ∧ c.toNat ≤ 90) ∨
      (48 ≤ c.toNat ∧ c.toNat ≤ 57) ∨ c.toNat = 95 ∨ c.toNat = 46 ∨ c.toNat = 45 := by
  simp only [isNameChar, Bool.or_eq_true, Bool.and_eq_true, decide_eq_true_eq, Char.le_def,
    UInt32.le_iff_toNat_le] at h
  obtain ((((h | h) | h) | rfl) | rfl) | rfl := h
  · exact Or.inl h
  · exact Or.inr (Or.inl h)
  · exact Or.inr (Or.inr (Or.inl h))
  · decide
  · decide
  · decide

theorem isNameChar_plain {c : Char} (h : isNameChar c = true) :
    isSpace c = false ∧ isLineBreak c = false ∧ ¬ c.toNat < 32 := by
  have hrange := toNat_of_isNameChar h
  have hspace : isSpace c = false := by
    simp only [isSpace, Bool.or_eq_false_iff, Bool.and_eq_false_iff, decide_eq_false_iff_not]
    omega
  refine ⟨hspace, ?_, by omega⟩
  by_contra hbreak
  rw [isSpace_of_isLineBreak (by simpa using hbreak)] at hspace
  cases hspace

theorem Resource.isNameChar (r : Resource) {c : Char} (hc : c ∈ r.name.toList) :
    isNameChar c = true := by
  have h := r.named
  simp only [isResourceName, Bool.and_eq_true, List.all_eq_true] at h
  exact h.2 c hc

theorem Resource.name_ne (r : Resource) : r.name ≠ "" := by
  have h := r.named
  simp only [isResourceName, Bool.and_eq_true, decide_eq_true_eq] at h
  exact h.1

theorem listedNames_listingText (resources : List Resource) :
    listedNames (listingText resources) = resources.map Resource.name := by
  have hlines : splitLines (listingText resources) = resources.map Resource.name := by
    cases resources with
    | nil => rfl
    | cons r resources =>
      rw [listingText, if_neg (by simp), splitLines_lineFeedText (by simp)]
      intro line hline c hc
      obtain ⟨r', -, rfl⟩ := List.mem_map.mp hline
      exact (isNameChar_plain (r'.isNameChar hc)).2.1
  have hstrip : ((resources.map Resource.name).map strip) = resources.map Resource.name := by
    rw [List.map_map]
    refine List.map_congr_left fun r _ => strip_of_isSpace fun c hc => ?_
    exact (isNameChar_plain (r.isNameChar hc)).1
  rw [listedNames, hlines, hstrip, List.filter_eq_self]
  intro name hname
  obtain ⟨r, -, rfl⟩ := List.mem_map.mp hname
  simpa using r.name_ne

theorem parseResourceListing_eq_ok {resources : List Resource} {names : List String} :
    parseResourceListing (listingText resources) = .ok names ↔
      (resources.map Resource.name).Nodup ∧ resources.map Resource.name = names := by
  have hchars : ∀ name ∈ resources.map Resource.name, ∀ c ∈ name.toList,
      isSpace c = false ∧ ¬ c.toNat < 32 := by
    intro name hname c hc
    obtain ⟨r, -, rfl⟩ := List.mem_map.mp hname
    have := isNameChar_plain (r.isNameChar hc)
    exact ⟨this.1, this.2.2⟩
  simp only [parseResourceListing, listedNames_listingText]
  rw [ite_error_eq_ok, Except.ok.injEq]
  refine and_congr_left fun _ => ?_
  rw [not_or, not_or, not_not]
  refine ⟨fun h => h.1, fun h => ⟨h, ?_, ?_⟩⟩
  · intro hany
    obtain ⟨name, hname, hany⟩ := List.any_eq_true.mp hany
    obtain ⟨c, hc, hspace⟩ := List.any_eq_true.mp hany
    rw [(hchars name hname c hc).1] at hspace
    cases hspace
  · intro hany
    obtain ⟨name, hname, hany⟩ := List.any_eq_true.mp hany
    obtain ⟨c, hc, hlow⟩ := List.any_eq_true.mp hany
    exact (hchars name hname c hc).2 (of_decide_eq_true hlow)

/-! ## The parts of the procedure -/

theorem runPrivate_eq_ok {α : Type} {cli : Cli} {removed : Bool} {command : Command}
    {stdout a : α} : cli.runPrivate removed command stdout = .ok a ↔
      cli.runs removed command = true ∧ stdout = a := by
  unfold Cli.runPrivate
  split
  · next h => simp [h]
  · next h => simp [h]

theorem require_eq_ok {condition : Bool} {message : Message} {u : Unit} :
    require condition message = .ok u ↔ condition = true := by
  cases condition <;> simp [require]

def labelledNames (docker : Docker) (project : String) (kind : Kind) : List String :=
  ((docker.resources kind).filter (·.isOf project)).map Resource.name

theorem mem_labelledNames {docker : Docker} {project name : String} {kind : Kind} :
    name ∈ labelledNames docker project kind ↔
      ∃ r ∈ docker.resources kind, r.isOf project = true ∧ r.name = name := by
  simp [labelledNames, and_assoc]

theorem listProject_eq_ok {cli : Cli} {removed : Bool} {docker : Docker} {project : String}
    {kind : Kind} {names : List String} :
    listProject cli removed docker project kind = .ok names ↔
      cli.runs removed (.listProject kind) = true ∧ (labelledNames docker project kind).Nodup ∧
        labelledNames docker project kind = names := by
  unfold listProject
  rw [bind_eq_ok]
  constructor
  · rintro ⟨stdout, hrun, hparse⟩
    obtain ⟨hruns, rfl⟩ := runPrivate_eq_ok.mp hrun
    exact ⟨hruns, parseResourceListing_eq_ok.mp hparse⟩
  · rintro ⟨hrun, hparse⟩
    exact ⟨_, runPrivate_eq_ok.mpr ⟨hrun, rfl⟩, parseResourceListing_eq_ok.mpr hparse⟩

theorem listProjectResources_eq_ok {cli : Cli} {removed : Bool} {docker : Docker}
    {project : String} {resources : ProjectResources} :
    listProjectResources cli removed docker project = .ok resources ↔
      (∀ kind, cli.runs removed (.listProject kind) = true ∧
        (labelledNames docker project kind).Nodup) ∧
      resources = ⟨labelledNames docker project .container, labelledNames docker project .network,
        labelledNames docker project .volume⟩ := by
  simp only [listProjectResources, bind_eq_ok, pure_eq_ok]
  constructor
  · rintro ⟨container, hcontainer, network, hnetwork, volume, hvolume, rfl⟩
    obtain ⟨hrun₁, hnodup₁, rfl⟩ := listProject_eq_ok.mp hcontainer
    obtain ⟨hrun₂, hnodup₂, rfl⟩ := listProject_eq_ok.mp hnetwork
    obtain ⟨hrun₃, hnodup₃, rfl⟩ := listProject_eq_ok.mp hvolume
    refine ⟨fun kind => ?_, rfl⟩
    cases kind with
    | container => exact ⟨hrun₁, hnodup₁⟩
    | network => exact ⟨hrun₂, hnodup₂⟩
    | volume => exact ⟨hrun₃, hnodup₃⟩
  · rintro ⟨hall, rfl⟩
    have hlist (kind : Kind) : listProject cli removed docker project kind =
        .ok (labelledNames docker project kind) :=
      listProject_eq_ok.mpr ⟨(hall kind).1, (hall kind).2, rfl⟩
    exact ⟨_, hlist .container, _, hlist .network, _, hlist .volume, rfl⟩

theorem presentVolumes_eq_ok {cli : Cli} {docker : Docker} {project : String}
    {expected present : List String} :
    presentVolumes cli docker project expected = .ok present ↔
      cli.runs false .listVolumes = true ∧
      (∀ r ∈ docker.volumes, startsWith r.name (project ++ "_") = true → r.name ∈ expected) ∧
      expected.filter (· ∈ docker.volumes.map Resource.name) = present := by
  simp only [presentVolumes, bind_eq_ok, pure_eq_ok]
  constructor
  · rintro ⟨stdout, hrun, _, -, _, hprefix, rfl⟩
    obtain ⟨hruns, rfl⟩ := runPrivate_eq_ok.mp hrun
    rw [require_eq_ok, listedNames_listingText, List.all_eq_true] at hprefix
    refine ⟨hruns, fun r hr hstart => ?_, by rw [listedNames_listingText]⟩
    simpa [hstart] using hprefix r.name (List.mem_map_of_mem hr)
  · rintro ⟨hrun, hprefix, rfl⟩
    refine ⟨_, runPrivate_eq_ok.mpr ⟨hrun, rfl⟩, (), ?_, (), ?_, ?_⟩
    · rw [require_eq_ok, listedNames_listingText, decide_eq_true_eq]
      exact docker.distinct
    · rw [require_eq_ok, listedNames_listingText, List.all_eq_true]
      intro name hname
      obtain ⟨r, hr, rfl⟩ := List.mem_map.mp hname
      have := hprefix r hr
      cases hstart : startsWith r.name (project ++ "_") <;> simp_all
    · rw [listedNames_listingText]

theorem presentNetworks_eq_ok {cli : Cli} {docker : Docker} {expected present : List String} :
    presentNetworks cli docker expected = .ok present ↔
      cli.runs false .listNetworks = true ∧ (docker.networks.map Resource.name).Nodup ∧
      expected.filter (· ∈ docker.networks.map Resource.name) = present := by
  simp only [presentNetworks, bind_eq_ok, pure_eq_ok]
  constructor
  · rintro ⟨stdout, hrun, names, hparse, rfl⟩
    obtain ⟨hruns, rfl⟩ := runPrivate_eq_ok.mp hrun
    obtain ⟨hnodup, rfl⟩ := parseResourceListing_eq_ok.mp hparse
    exact ⟨hruns, hnodup, rfl⟩
  · rintro ⟨hrun, hnodup, rfl⟩
    exact ⟨_, runPrivate_eq_ok.mpr ⟨hrun, rfl⟩, _,
      parseResourceListing_eq_ok.mpr ⟨hnodup, rfl⟩, rfl⟩

theorem inspect_eq_ok {cli : Cli} {project keyLabel key : String} {command : Command}
    {resources : List Resource} {r : Resource} (hdistinct : (resources.map Resource.name).Nodup)
    (hr : r ∈ resources) :
    inspect cli project command resources r.name keyLabel key = .ok () ↔
      cli.runs false command = true ∧ r.isOf project = true ∧ r.label keyLabel = some key := by
  have hfind : (resources.find? fun r' => r'.name = r.name) = some r := by
    cases hfound : resources.find? fun r' => r'.name = r.name with
    | none =>
      have := List.find?_eq_none.mp hfound r hr
      simp at this
    | some r' =>
      have hname : r'.name = r.name := by simpa using List.find?_some hfound
      have hmem := List.mem_of_find?_eq_some hfound
      rw [List.inj_on_of_nodup_map hdistinct hmem hr hname]
  simp only [inspect, bind_eq_ok, hfind]
  constructor
  · rintro ⟨found, hrun, hfound⟩
    obtain ⟨hruns, rfl⟩ := runPrivate_eq_ok.mp hrun
    have := require_eq_ok.mp hfound
    simp only [Bool.and_eq_true, decide_eq_true_eq] at this
    exact ⟨hruns, this⟩
  · rintro ⟨hrun, hlabels⟩
    refine ⟨_, runPrivate_eq_ok.mpr ⟨hrun, rfl⟩, require_eq_ok.mpr ?_⟩
    simpa using hlabels

theorem sameNames_iff {left right : List String} :
    sameNames left right = true ↔ ∀ name, name ∈ left ↔ name ∈ right := by
  simp only [sameNames, Bool.and_eq_true, List.all_eq_true, decide_eq_true_eq]
  exact ⟨fun h name => ⟨h.1 name, h.2 name⟩, fun h => ⟨fun name => (h name).mp,
    fun name => (h name).mpr⟩⟩

theorem mem_sortedNames {names : List String} {name : String} :
    name ∈ sortedNames names ↔ name ∈ names := by
  simp [sortedNames]

theorem sameNames_present {resources : List Resource} {project : String} {expected : List String}
    (hdistinct : (resources.map Resource.name).Nodup) :
    sameNames ((resources.filter (·.isOf project)).map Resource.name)
        (expected.filter (· ∈ resources.map Resource.name)) = true ↔
      ∀ r ∈ resources, r.isOf project = true ↔ r.name ∈ expected := by
  rw [sameNames_iff]
  constructor
  · intro h r hr
    have hname := h r.name
    rw [List.mem_filter] at hname
    constructor
    · intro hof
      exact (hname.mp (List.mem_map.mpr ⟨r, List.mem_filter.mpr ⟨hr, hof⟩, rfl⟩)).1
    · intro hmem
      have hpresent : decide (r.name ∈ resources.map Resource.name) = true :=
        decide_eq_true (List.mem_map_of_mem hr)
      obtain ⟨r', hr', hsame⟩ := List.mem_map.mp (hname.mpr ⟨hmem, hpresent⟩)
      obtain ⟨hr', hof⟩ := List.mem_filter.mp hr'
      rwa [List.inj_on_of_nodup_map hdistinct hr hr' hsame.symm]
  · intro h name
    rw [List.mem_filter, decide_eq_true_eq, List.mem_map, List.mem_map]
    constructor
    · rintro ⟨r, hr, rfl⟩
      obtain ⟨hr, hof⟩ := List.mem_filter.mp hr
      exact ⟨(h r hr).mp hof, r, hr, rfl⟩
    · rintro ⟨hmem, r, hr, rfl⟩
      exact ⟨r, List.mem_filter.mpr ⟨hr, (h r hr).mpr hmem⟩, rfl⟩

theorem readExpected_eq_ok {project : String} {printed : Option Json} {expected : Expected} :
    readExpected project printed = .ok expected ↔
      printed = some expected.compose ∧
      expectedVolumes expected.compose project = some expected.volumes ∧ expected.volumes ≠ [] ∧
      expectedNetworkNames expected.compose project = .ok expected.networks := by
  obtain ⟨compose, volumes, networks⟩ := expected
  cases printed with
  | none => simp [readExpected]
  | some printed =>
    simp only [readExpected, Option.some.injEq]
    cases hvolumes : expectedVolumes printed project with
    | none =>
      refine ⟨fun h => (by cases h), ?_⟩
      rintro ⟨rfl, h, -⟩
      rw [hvolumes] at h
      cases h
    | some names =>
      cases names with
      | nil =>
        refine ⟨fun h => (by cases h), ?_⟩
        rintro ⟨rfl, h, hne, -⟩
        rw [hvolumes] at h
        exact absurd (Option.some.inj h).symm hne
      | cons name names =>
        dsimp only
        rw [map_eq_ok]
        constructor
        · rintro ⟨networks', hnetworks, h⟩
          obtain ⟨rfl, rfl, rfl⟩ := Expected.mk.inj h
          exact ⟨rfl, hvolumes, List.cons_ne_nil _ _, hnetworks⟩
        · rintro ⟨rfl, h, -, hnetworks⟩
          obtain rfl := Option.some.inj (hvolumes.symm.trans h)
          exact ⟨networks, hnetworks, rfl⟩

/-! ## When the removal is permitted -/

/-- What the configuration and Docker have to be for the command to be issued. -/
structure Permitted (cli : Cli) (manifest : Manifest) (docker : Docker) (expected : Expected) :
    Prop where
  mode : manifest.mode ∈ cleanupModes
  config : cli.runs false .config = true ∧ cli.config = some expected.compose
  volumes : expectedVolumes expected.compose manifest.project = some expected.volumes
  someVolume : expected.volumes ≠ []
  networks : expectedNetworkNames expected.compose manifest.project = .ok expected.networks
  listed : cli.runs false .listVolumes = true ∧ cli.runs false .listNetworks = true ∧
    ∀ kind, cli.runs false (.listProject kind) = true ∧
      (labelledNames docker manifest.project kind).Nodup
  distinct : (docker.networks.map Resource.name).Nodup
  /-- The volumes with the prefix of the project are those that its services mount. -/
  prefixed : ∀ r ∈ docker.volumes, startsWith r.name (manifest.project ++ "_") = true →
    r.name ∈ expected.volumes
  ownVolumes : ∀ r ∈ docker.volumes, r.isOf manifest.project = true ↔ r.name ∈ expected.volumes
  ownNetworks : ∀ r ∈ docker.networks, r.isOf manifest.project = true ↔ r.name ∈ expected.networks
  volumeLabels : ∀ r ∈ docker.volumes, r.name ∈ expected.volumes →
    cli.runs false (.inspectVolume r.name) = true ∧
      r.label volumeLabel = some (volumeKey manifest.project r.name)
  networkLabels : ∀ r ∈ docker.networks, r.name ∈ expected.networks →
    cli.runs false (.inspectNetwork r.name) = true ∧ r.label networkLabel = some "default"

theorem forM_inspect_eq_ok {cli : Cli} {project keyLabel : String} {resources : List Resource}
    {expected : List String} {command : String → Command} {key : String → String}
    (hdistinct : (resources.map Resource.name).Nodup)
    (hown : ∀ r ∈ resources, r.isOf project = true ↔ r.name ∈ expected) :
    ((sortedNames (expected.filter (· ∈ resources.map Resource.name))).forM fun name =>
        inspect cli project (command name) resources name keyLabel (key name)) = .ok () ↔
      ∀ r ∈ resources, r.name ∈ expected →
        cli.runs false (command r.name) = true ∧ r.label keyLabel = some (key r.name) := by
  rw [forM_eq_ok]
  constructor
  · intro h r hr hmem
    have hname := h r.name (mem_sortedNames.mpr (List.mem_filter.mpr
      ⟨hmem, decide_eq_true (List.mem_map_of_mem hr)⟩))
    obtain ⟨hrun, -, hlabel⟩ := (inspect_eq_ok hdistinct hr).mp hname
    exact ⟨hrun, hlabel⟩
  · intro h name hname
    obtain ⟨hmem, hpresent⟩ := List.mem_filter.mp (mem_sortedNames.mp hname)
    obtain ⟨r, hr, rfl⟩ := List.mem_map.mp (of_decide_eq_true hpresent)
    obtain ⟨hrun, hlabel⟩ := h r hr hmem
    exact (inspect_eq_ok hdistinct hr).mpr ⟨hrun, (hown r hr).mpr hmem, hlabel⟩

theorem permit_eq_ok {cli : Cli} {manifest : Manifest} {docker : Docker} {expected : Expected} :
    permit cli manifest docker = .ok expected ↔ Permitted cli manifest docker expected := by
  simp only [permit, bind_eq_ok, pure_eq_ok]
  constructor
  · rintro ⟨_, hmode, printed, hconfig, expected', hexpected, present, hpresent, labelled,
      hlabelled, _, hvolumes, networks, hnetworks, _, hsame, _, hinspect, _, hinspect', rfl⟩
    obtain ⟨hruns, rfl⟩ := runPrivate_eq_ok.mp hconfig
    obtain ⟨hprinted, hnames, hne, hnet⟩ := readExpected_eq_ok.mp hexpected
    obtain ⟨hlist, hprefix, rfl⟩ := presentVolumes_eq_ok.mp hpresent
    obtain ⟨hkinds, rfl⟩ := listProjectResources_eq_ok.mp hlabelled
    obtain ⟨hlist', hdistinct, rfl⟩ := presentNetworks_eq_ok.mp hnetworks
    have hown := (sameNames_present docker.distinct).mp (require_eq_ok.mp hvolumes)
    have hown' := (sameNames_present hdistinct).mp (require_eq_ok.mp hsame)
    exact {
      mode := of_decide_eq_true (require_eq_ok.mp hmode)
      config := ⟨hruns, hprinted⟩
      volumes := hnames
      someVolume := hne
      networks := hnet
      listed := ⟨hlist, hlist', hkinds⟩
      distinct := hdistinct
      prefixed := hprefix
      ownVolumes := hown
      ownNetworks := hown'
      volumeLabels := (forM_inspect_eq_ok docker.distinct hown).mp hinspect
      networkLabels := (forM_inspect_eq_ok hdistinct hown').mp hinspect' }
  · intro h
    obtain ⟨hruns, hprinted⟩ := h.config
    obtain ⟨hlist, hlist', hkinds⟩ := h.listed
    refine ⟨(), require_eq_ok.mpr (decide_eq_true h.mode), _, runPrivate_eq_ok.mpr ⟨hruns, rfl⟩,
      expected, readExpected_eq_ok.mpr ⟨hprinted, h.volumes, h.someVolume, h.networks⟩, _,
      presentVolumes_eq_ok.mpr ⟨hlist, h.prefixed, rfl⟩, _,
      listProjectResources_eq_ok.mpr ⟨hkinds, rfl⟩, (), ?_, _,
      presentNetworks_eq_ok.mpr ⟨hlist', h.distinct, rfl⟩, (), ?_, (), ?_, (), ?_, rfl⟩
    · exact require_eq_ok.mpr ((sameNames_present docker.distinct).mpr h.ownVolumes)
    · exact require_eq_ok.mpr ((sameNames_present h.distinct).mpr h.ownNetworks)
    · exact (forM_inspect_eq_ok docker.distinct h.ownVolumes).mpr h.volumeLabels
    · exact (forM_inspect_eq_ok h.distinct h.ownNetworks).mpr h.networkLabels

/-! ## What is expected and what is declared -/

theorem mem_keysOf {value : Json} {key : String} :
    key ∈ keysOf value ↔ ∃ entry, value.get? key = some entry := by
  rw [keysOf, List.mem_dedup, List.mem_map, ← Option.isSome_iff_exists]
  cases value with
  | obj kvs =>
    rw [Json.get?, List.lookup_isSome_iff]
    constructor
    · rintro ⟨entry, hentry, rfl⟩
      exact ⟨entry, hentry, beq_self_eq_true _⟩
    · rintro ⟨entry, hentry, hkey⟩
      exact ⟨entry, hentry, (beq_iff_eq.mp hkey).symm⟩
  | null | bool | int | float | str | arr => simp [Json.entries, Json.get?]

theorem toList_projectName (project key : String) :
    (projectName project key).toList = (project ++ "_").toList ++ key.toList :=
  String.toList_append

theorem startsWith_projectName (project key : String) :
    startsWith (projectName project key) (project ++ "_") = true := by
  rw [startsWith, List.isPrefixOf_iff_prefix, toList_projectName]
  exact List.prefix_append _ _

theorem volumeKey_projectName (project key : String) :
    volumeKey project (projectName project key) = key := by
  rw [volumeKey, if_pos (startsWith_projectName project key), toList_projectName, List.drop_left,
    String.ofList_toList]

theorem exists_key_of_mem_expected {compose : Json} {project name : String} {names : List String}
    (h : expectedVolumes compose project = some names) (hname : name ∈ names) :
    ∃ key ∈ keysOf (compose.getD "volumes" .null), name = projectName project key := by
  unfold expectedVolumes at h
  split at h
  · next volumes hvolumes =>
    obtain ⟨keys, -, hkeys⟩ := Option.bind_eq_some_iff.mp h
    obtain ⟨key, -, hkey⟩ := (mem_of_mapM_eq_some hkeys).mp hname
    unfold expectedVolume at hkey
    split at hkey
    · cases hkey
    · next definition hdefinition =>
      split at hkey
      · refine ⟨key, ?_, (Option.some.inj hkey).symm⟩
        rw [mem_keysOf, Json.getD, hvolumes]
        exact ⟨definition, hdefinition⟩
      · cases hkey
  · cases h

theorem declared_network {compose : Json} {project : String} {names : List String} (name : String)
    (h : expectedNetworkNames compose project = .ok names) :
    names = [projectName project "default"] ∧
      "default" ∈ keysOf (compose.getD "networks" .null) ∧
      (name ∈ declaredNames compose "networks" project → name = projectName project "default") := by
  unfold expectedNetworkNames at h
  split at h
  · next networks hnetworks =>
    have hpart : compose.getD "networks" .null = .obj networks := by
      rw [Json.getD, hnetworks]
      rfl
    split at h
    · next definition hdefinition =>
      split at h
      · next hplain =>
        obtain ⟨hkeys, hplain⟩ := hplain
        refine ⟨(Except.ok.inj h).symm, ?_, fun hname => ?_⟩
        · rw [hpart, mem_keysOf]
          exact ⟨definition, hdefinition⟩
        · simp only [declaredNames, hpart] at hname
          obtain ⟨key, hkey, hdeclared⟩ := List.mem_filterMap.mp hname
          obtain rfl : key = "default" := by
            have := List.all_eq_true.mp hkeys key hkey
            exact of_decide_eq_true this
          rw [hdefinition] at hdeclared
          simp only [isPlainNetwork, Bool.and_eq_true, Bool.not_eq_true'] at hplain
          obtain ⟨⟨⟨⟨-, -⟩, hexternal⟩, htext⟩, -⟩ := hplain
          simp only [Option.bind_some, hexternal] at hdeclared
          unfold isTextOf at htext
          split at htext
          · next text htextEq =>
            simp only [declaredName, htextEq] at hdeclared
            simp only [decide_eq_true_eq] at htext
            simpa [htext] using hdeclared.symm
          · cases htext
      · cases h
    · cases h
  · cases h

/-! ## The claim -/

def IsOwn (compose : Json) (part keyLabel project : String) (r : Resource) : Prop :=
  ∃ key ∈ keysOf (compose.getD part .null), r.name = projectName project key ∧
    r.isOf project = true ∧ r.label keyLabel = some key

/-- Only resources of the project are removed, and none is left where the procedure returns. -/
structure IsSafe (cli : Cli) (manifest : Manifest) (docker : Docker) : Prop where
  removesOwn : (executeSafeDownVolumes cli manifest docker).issued = true →
    ∀ compose, cli.config = some compose →
      (∀ r ∈ docker.volumes, r ∉ (executeSafeDownVolumes cli manifest docker).docker.volumes →
        IsOwn compose "volumes" volumeLabel manifest.project r) ∧
      ∀ r ∈ docker.networks, r ∉ (executeSafeDownVolumes cli manifest docker).docker.networks →
        IsOwn compose "networks" networkLabel manifest.project r
  removesAll : (executeSafeDownVolumes cli manifest docker).result = .ok () →
    (∀ kind, ∀ r ∈ (executeSafeDownVolumes cli manifest docker).docker.resources kind,
      r.isOf manifest.project = false) ∧
    (∀ r ∈ (executeSafeDownVolumes cli manifest docker).docker.volumes,
      startsWith r.name (manifest.project ++ "_") = false) ∧
    ∀ r ∈ (executeSafeDownVolumes cli manifest docker).docker.networks,
      r.name ≠ projectName manifest.project "default"

section Claim

variable {cli : Cli} {manifest : Manifest} {docker : Docker} {expected : Expected}

theorem execute_of_permitted (h : Permitted cli manifest docker expected) :
    executeSafeDownVolumes cli manifest docker =
      ⟨true, docker.down expected.compose manifest.project,
        confirm cli (docker.down expected.compose manifest.project) manifest.project expected⟩ := by
  simp only [executeSafeDownVolumes, permit_eq_ok.mpr h]

theorem exists_permitted (h : (executeSafeDownVolumes cli manifest docker).issued = true ∨
    (executeSafeDownVolumes cli manifest docker).result = .ok ()) :
    ∃ expected, Permitted cli manifest docker expected := by
  unfold executeSafeDownVolumes at h
  split at h
  · rcases h with h | h <;> cases h
  · next expected hpermit => exact ⟨expected, permit_eq_ok.mp hpermit⟩

theorem Permitted.isOwn_volume (h : Permitted cli manifest docker expected) {r : Resource}
    (hr : r ∈ docker.volumes)
    (hstart : startsWith r.name (manifest.project ++ "_") = true) :
    IsOwn expected.compose "volumes" volumeLabel manifest.project r := by
  have hmem := h.prefixed r hr hstart
  obtain ⟨key, hkey, hname⟩ := exists_key_of_mem_expected h.volumes hmem
  refine ⟨key, hkey, hname, (h.ownVolumes r hr).mpr hmem, ?_⟩
  rw [(h.volumeLabels r hr hmem).2, hname, volumeKey_projectName]

theorem Permitted.isOwn_network (h : Permitted cli manifest docker expected) {r : Resource}
    (hr : r ∈ docker.networks)
    (hname : r.name ∈ declaredNames expected.compose "networks" manifest.project) :
    IsOwn expected.compose "networks" networkLabel manifest.project r := by
  obtain ⟨hnames, hkey, hdeclared⟩ := declared_network r.name h.networks
  have hdefault := hdeclared hname
  have hmem : r.name ∈ expected.networks := by
    rw [hnames, hdefault]
    exact List.mem_singleton.mpr rfl
  exact ⟨"default", hkey, hdefault, (h.ownNetworks r hr).mpr hmem, (h.networkLabels r hr hmem).2⟩

theorem not_isSafe (h : Permitted cli manifest docker expected) {r : Resource}
    (hr : r ∈ docker.volumes)
    (hname : r.name ∈ declaredNames expected.compose "volumes" manifest.project)
    (hstart : startsWith r.name (manifest.project ++ "_") = false) :
    ¬ IsSafe cli manifest docker := by
  intro hsafe
  have hrun := execute_of_permitted h
  have hremoved : r ∉ (executeSafeDownVolumes cli manifest docker).docker.volumes := by
    rw [hrun]
    simp [Docker.down, hname]
  obtain ⟨key, -, hown, -⟩ :=
    (hsafe.removesOwn (by rw [hrun]) expected.compose h.config.2).1 r hr hremoved
  rw [hown, startsWith_projectName] at hstart
  cases hstart

theorem removesOwn_of_permitted (h : Permitted cli manifest docker expected)
    (hdeclared : ∀ r ∈ docker.volumes,
      r.name ∈ declaredNames expected.compose "volumes" manifest.project →
        startsWith r.name (manifest.project ++ "_") = true) :
    (∀ r ∈ docker.volumes, r ∉ (docker.down expected.compose manifest.project).volumes →
      IsOwn expected.compose "volumes" volumeLabel manifest.project r) ∧
    ∀ r ∈ docker.networks, r ∉ (docker.down expected.compose manifest.project).networks →
      IsOwn expected.compose "networks" networkLabel manifest.project r := by
  constructor
  · intro r hr hremoved
    have hname : r.name ∈ declaredNames expected.compose "volumes" manifest.project := by
      by_contra hnot
      exact hremoved (List.mem_filter.mpr ⟨hr, by simpa using hnot⟩)
    exact h.isOwn_volume hr (hdeclared r hr hname)
  · intro r hr hremoved
    refine h.isOwn_network hr ?_
    by_contra hnot
    exact hremoved (List.mem_filter.mpr ⟨hr, by simpa using hnot⟩)

/-- What the checks after the removal establish. -/
theorem removesAll_of_confirm (h : Permitted cli manifest docker expected) {rest : Docker}
    (hrest : ∀ r ∈ rest.volumes, r ∈ docker.volumes)
    (hconfirm : confirm cli rest manifest.project expected = .ok ()) :
    (∀ kind, ∀ r ∈ rest.resources kind, r.isOf manifest.project = false) ∧
    (∀ r ∈ rest.volumes, startsWith r.name (manifest.project ++ "_") = false) ∧
    ∀ r ∈ rest.networks, r.name ≠ projectName manifest.project "default" := by
  simp only [confirm, bind_eq_ok] at hconfirm
  obtain ⟨_, -, listed, hlisted, _, hvolumes, stdout, hstdout, names, hparse, _, hnetworks,
    hempty⟩ := hconfirm
  obtain ⟨-, rfl⟩ := runPrivate_eq_ok.mp hlisted
  obtain ⟨-, rfl⟩ := runPrivate_eq_ok.mp hstdout
  obtain ⟨-, rfl⟩ := parseResourceListing_eq_ok.mp hparse
  rw [require_eq_ok, listedNames_listingText, List.all_eq_true] at hvolumes
  rw [require_eq_ok, List.all_eq_true] at hnetworks
  refine ⟨fun kind r hr => ?_, fun r hr => ?_, fun r hr hname => ?_⟩
  · simp only [requireEmptyProjectResources, bind_eq_ok] at hempty
    obtain ⟨resources, hresources, hempty⟩ := hempty
    obtain ⟨-, rfl⟩ := listProjectResources_eq_ok.mp hresources
    rw [require_eq_ok] at hempty
    simp only [Bool.and_eq_true, List.isEmpty_iff] at hempty
    have hnone : labelledNames rest manifest.project kind = [] := by
      cases kind with
      | container => exact hempty.1.1
      | network => exact hempty.1.2
      | volume => exact hempty.2
    by_contra hof
    have hmem := mem_labelledNames.mpr ⟨r, hr, by simpa using hof, rfl⟩
    rw [hnone] at hmem
    exact List.not_mem_nil hmem
  · by_contra hstart
    have hmem := h.prefixed r (hrest r hr) (by simpa using hstart)
    have := of_decide_eq_true (hvolumes r.name hmem)
    exact this (List.mem_map_of_mem hr)
  · have hmem : r.name ∈ expected.networks := by
      rw [(declared_network r.name h.networks).1, hname]
      exact List.mem_singleton.mpr rfl
    exact of_decide_eq_true (hnetworks r.name hmem) (List.mem_map_of_mem hr)

end Claim

/-- The cleanup only removes what is the project's, and leaves nothing of it where it returns,
exactly if every volume that is present and declared in a permitted configuration has the prefix of
the project. -/
theorem isSafe_iff (cli : Cli) (manifest : Manifest) (docker : Docker) :
    IsSafe cli manifest docker ↔
      ∀ expected, Permitted cli manifest docker expected → ∀ r ∈ docker.volumes,
        r.name ∈ declaredNames expected.compose "volumes" manifest.project →
          startsWith r.name (manifest.project ++ "_") = true := by
  constructor
  · intro hsafe expected h r hr hname
    by_contra hstart
    exact not_isSafe h hr hname (by simpa using hstart) hsafe
  · intro hdeclared
    refine ⟨fun hissued compose hcompose => ?_, fun hresult => ?_⟩
    · obtain ⟨expected, h⟩ := exists_permitted (Or.inl hissued)
      obtain rfl := Option.some.inj (h.config.2.symm.trans hcompose)
      rw [execute_of_permitted h]
      exact removesOwn_of_permitted h (hdeclared expected h)
    · obtain ⟨expected, h⟩ := exists_permitted (Or.inr hresult)
      rw [execute_of_permitted h] at hresult ⊢
      exact removesAll_of_confirm h (fun r hr => (List.mem_filter.mp hr).1) hresult

/-! ## A volume with a name of its own -/

/-- A command line on which every command returns zero. -/
def plainCli (compose : Json) : Cli := ⟨fun _ _ => true, some compose⟩

def randomProject : String := "trainfactory-verify-0123456789abcdef0123456789abcdef"

/-- A configuration with a volume that a service mounts and one that none mounts. -/
def namedConfig : Json :=
  .obj [("services", .obj [("mysql", .obj [("volumes",
      .arr [.obj [("type", .str "volume"), ("source", .str "mysql_data")]])])]),
    ("volumes", .obj [
      ("mysql_data", .obj [("name", .str (projectName randomProject "mysql_data"))]),
      ("archive", .obj [("name", .str "archive")])]),
    ("networks", .obj [("default", .obj [("name", .str (projectName randomProject "default"))])])]

def archive : Resource := ⟨"archive", none, by decide⟩

def archiveDocker : Docker := ⟨[], [], [archive], by simp⟩

theorem permitted_archive : Permitted (plainCli namedConfig) ⟨"verify", randomProject⟩ archiveDocker
    ⟨namedConfig, [projectName randomProject "mysql_data"],
      [projectName randomProject "default"]⟩ where
  mode := by decide
  config := ⟨rfl, rfl⟩
  volumes := by decide
  someVolume := List.cons_ne_nil _ _
  networks := by decide
  listed := ⟨rfl, rfl, fun kind => ⟨rfl, by cases kind <;> decide⟩⟩
  distinct := List.nodup_nil
  prefixed := by decide
  ownVolumes := by decide
  ownNetworks := by decide
  volumeLabels := by decide
  networkLabels := by decide

theorem isSafe_archive_false : ¬ IsSafe (plainCli namedConfig) ⟨"verify", randomProject⟩
    archiveDocker :=
  not_isSafe permitted_archive (List.mem_singleton.mpr rfl) (by decide) (by decide)

end SafeDown

end Compose
