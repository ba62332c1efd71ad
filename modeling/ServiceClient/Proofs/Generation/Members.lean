import ServiceClient.Proofs.Generation.Shadowing
import ServiceClient.Proofs.Text.Strip

namespace ServiceClient

def DataService.ownMembers : List String :=
  ["http", "apiRelativePath", "handleError", "constructor"]

namespace Controller

variable {suffix : String} {c c' : Controller}

def IsPlain (suffix : String) (c : Controller) : Prop :=
  c.name ≠ suffix ∧ Naming.IsWord (c.resourceName suffix)

instance (suffix : String) : DecidablePred (IsPlain suffix) :=
  fun _ => inferInstanceAs (Decidable (_ ∧ _))

/-- Two plain controllers whose names differ in more than their case. -/
def IsApart (suffix : String) (c c' : Controller) : Prop :=
  c.IsPlain suffix ∧ c'.IsPlain suffix ∧ Text.fold c.name ≠ Text.fold c'.name

/-- A plain controller whose resource is no member of the class itself, whatever the case. -/
def IsForeign (suffix : String) (c : Controller) : Prop :=
  c.IsPlain suffix ∧ Text.fold (c.resourceName suffix) ∉ DataService.ownMembers.map Text.fold

instance (suffix : String) : DecidableRel (IsApart suffix) :=
  fun _ _ => inferInstanceAs (Decidable (_ ∧ _ ∧ _))

instance (suffix : String) : DecidablePred (IsForeign suffix) :=
  fun _ => inferInstanceAs (Decidable (_ ∧ _))

theorem resourceName_append (ends : Text.endsWith suffix c.name = true) (h : c.name ≠ suffix) :
    c.resourceName suffix ++ suffix = c.name := by
  obtain ⟨start, name⟩ := Text.exists_append_of_suffix (List.isSuffixOf_iff_suffix.1 ends)
  have dropped : Text.dropSuffix? suffix c.name = some start := by
    rw [name, Text.dropSuffix?_append]
  have filled : start ≠ "" := by
    intro empty
    rw [empty, String.empty_append] at name
    exact h name
  rw [resourceName, dropped]
  split
  · next empty => exact absurd (Option.some.inj empty) filled
  · contradiction
  · next resource same => rw [← Option.some.inj same, ← name]

theorem fold_name_eq (ends : Text.endsWith suffix c.name = true)
    (ends' : Text.endsWith suffix c'.name = true) (plain : c.IsPlain suffix)
    (plain' : c'.IsPlain suffix)
    (same : Naming.camelize (c.resourceName suffix) = Naming.camelize (c'.resourceName suffix)) :
    Text.fold c.name = Text.fold c'.name := by
  have resources := Naming.fold_eq_of_camelize_eq plain.2 plain'.2 same
  rw [← resourceName_append ends plain.1, ← resourceName_append ends' plain'.1, Text.fold_append,
    Text.fold_append, resources]

end Controller

namespace Generation

variable {s : Settings} {snapshot : Snapshot} {g : Generation}
  {listing : List (Controller × Grouping)}

theorem memberName_of_listed (h : Listed s snapshot g listing) {p : Controller × Grouping}
    (hp : p ∈ listing) :
    p.2.memberName = Naming.camelize (p.1.resourceName s.controllerSuffix) := by
  obtain ⟨_, account⟩ := h.accounts p hp
  rw [Grouping.memberName, account.name]

theorem memberNames_perm (h : Listed s snapshot g listing) :
    (listing.map (·.2.memberName)).Perm ((snapshot.controllers.filter (¬IsDropped s ·)).map
      fun c => Naming.camelize (c.resourceName s.controllerSuffix)) := by
  rw [List.map_congr_left fun _ => memberName_of_listed h]
  have members := h.controllers.map fun c => Naming.camelize (c.resourceName s.controllerSuffix)
  rwa [List.map_map] at members

theorem nodup_names_of_listed (valid : snapshot.Valid) (h : Listed s snapshot g listing) :
    (listing.map (·.1.name)).Nodup := by
  have names := h.controllers.map (·.name)
  rw [List.map_map] at names
  exact names.nodup_iff.2 (valid.controllers.sublist (List.filter_sublist.map _))

theorem nodup_memberNames_iff (valid : snapshot.Valid) (h : Listed s snapshot g listing)
    (ends : ∀ c ∈ snapshot.controllers, Text.endsWith s.controllerSuffix c.name = true) :
    (listing.map (·.2.memberName)).Nodup ↔ ∀ p ∈ listing, ∀ q ∈ listing,
      ¬p.1.IsApart s.controllerSuffix q.1 → p.2.memberName = q.2.memberName → p = q := by
  refine nodup_map_iff (nodup_names_of_listed valid h) fun p hp q hq apart same => ?_
  rw [memberName_of_listed h hp, memberName_of_listed h hq] at same
  obtain ⟨plain, plain', differ⟩ := apart
  exact absurd (Controller.fold_name_eq (ends _ (kept_of_listed h hp).1)
    (ends _ (kept_of_listed h hq).1) plain plain' same) differ

theorem memberName_of_isForeign (h : Listed s snapshot g listing) {p : Controller × Grouping}
    (hp : p ∈ listing) (foreign : p.1.IsForeign s.controllerSuffix) :
    p.2.memberName ∉ DataService.ownMembers := by
  intro own
  have folded := List.mem_map_of_mem (f := Text.fold) own
  rw [memberName_of_listed h hp, Naming.fold_camelize foreign.1.2] at folded
  exact foreign.2 folded

/-- Whether the members of the class are different from one another and from its own ones is
decided by the controllers that are not apart, and by those that are not foreign: no others
collide. -/
theorem generate_members {path : Path} {content : Except FileError ByteArray}
    (read : Snapshot.load path s.controllerSuffix content = .ok snapshot)
    (enabled : s.isEnabled = true) (h : generate s snapshot = .ok g) :
    (∃ listing, Listed s snapshot g listing) ∧
    ∀ listing, Listed s snapshot g listing →
      ((listing.map (·.2.memberName)).Nodup ∧
          (∀ p ∈ listing, p.2.memberName ∉ DataService.ownMembers) ↔
        (∀ p ∈ listing, ∀ q ∈ listing, ¬p.1.IsApart s.controllerSuffix q.1 →
          p.2.memberName = q.2.memberName → p = q) ∧
        ∀ p ∈ listing, ¬p.1.IsForeign s.controllerSuffix →
          p.2.memberName ∉ DataService.ownMembers) := by
  have valid := Snapshot.valid_of_load read
  obtain rfl := eq_assembled_of_generate enabled h
  refine ⟨⟨_, listed valid⟩, fun listing hlisting => ?_⟩
  rw [nodup_memberNames_iff valid hlisting (Snapshot.endsWith_of_load read)]
  refine and_congr_right' ⟨fun apart p hp _ => apart p hp, fun others p hp => ?_⟩
  by_cases foreign : p.1.IsForeign s.controllerSuffix
  · exact memberName_of_isForeign hlisting hp foreign
  · exact others p hp foreign

theorem generate_members_apart :
    let s : Settings := { basePath := "/api" }
    let snapshot : Snapshot := ⟨[], [{ name := "UserController" }, { name := "RoleController" }]⟩
    ∃ g listing, Snapshot.load (Path.parse "snapshot.yaml") "Controller"
        (.ok "controllers: [\x7bname: UserController\x7d, \x7bname: RoleController\x7d]".toUTF8) =
          .ok snapshot ∧
      generate s snapshot = .ok g ∧ Listed s snapshot g listing ∧
      (listing.map (·.2.memberName)).Nodup ∧
        ∀ p ∈ listing, p.2.memberName ∉ DataService.ownMembers := by
  intro s snapshot
  have read : Snapshot.load (Path.parse "snapshot.yaml") s.controllerSuffix
      (.ok "controllers: [\x7bname: UserController\x7d, \x7bname: RoleController\x7d]".toUTF8) =
        .ok snapshot := by
    decide +kernel
  have returns : generate s snapshot = .ok (assembled s snapshot) :=
    generate_of_no_fault rfl (by decide +kernel)
  have apart : ∀ c ∈ snapshot.controllers, ∀ c' ∈ snapshot.controllers,
      ¬c.IsApart s.controllerSuffix c' → c.name = c'.name := by
    decide +kernel
  have foreign : ∀ c ∈ snapshot.controllers, c.IsForeign s.controllerSuffix := by decide +kernel
  obtain ⟨⟨listing, listed⟩, each⟩ := generate_members read rfl returns
  refine ⟨_, listing, read, returns, listed, (each listing listed).2 ⟨?_, ?_⟩⟩
  · intro p hp q hq alike _
    have name := apart _ (kept_of_listed listed hp).1 _ (kept_of_listed listed hq).1 alike
    have names := nodup_names_of_listed (Snapshot.valid_of_load read) listed
    exact List.inj_on_of_nodup_map names hp hq name
  · intro p hp alike
    exact absurd (foreign _ (kept_of_listed listed hp).1) alike

/-- Two controllers whose names differ in case alone become one member. -/
theorem generate_members_collide :
    let s : Settings := { basePath := "/api" }
    let snapshot : Snapshot := ⟨[], [{ name := "UserController" }, { name := "userController" }]⟩
    Snapshot.load (Path.parse "snapshot.yaml") "Controller"
        (.ok "controllers:\n- name: UserController\n- name: userController\n".toUTF8) =
          .ok snapshot ∧
      ∃ g, generate s snapshot = .ok g ∧ (∃ listing, Listed s snapshot g listing) ∧
        ∀ listing, Listed s snapshot g listing →
          listing.map (·.2.memberName) = ["user", "user"] := by
  intro s snapshot
  have read : Snapshot.load (Path.parse "snapshot.yaml") "Controller"
      (.ok "controllers:\n- name: UserController\n- name: userController\n".toUTF8) =
        .ok snapshot := by
    decide +kernel
  refine ⟨read, _, generate_of_no_fault rfl (by decide +kernel),
    ⟨_, listed (Snapshot.valid_of_load read)⟩, fun listing hlisting => ?_⟩
  have camel : ((snapshot.controllers.filter (¬IsDropped s ·)).map fun c =>
      Naming.camelize (c.resourceName s.controllerSuffix)) = List.replicate 2 "user" := by
    decide +kernel
  have members := memberNames_perm hlisting
  rw [camel] at members
  exact List.perm_replicate.1 members

end Generation

end ServiceClient
