import HostLink.Proofs.Json
import HostLink.Settings.Pipe
import HostLink.Settings.Session
import Mathlib

/-!
# HostLink.Proofs.Settings

What a document of settings says is what it gives. A document may give any of the fields, in any
order and among others that mean nothing; the settings that are read have the values it gives, and
the defaults for the rest.

* `Json.Gives` — a document gives those of the fields that are kept.
* `ofJson?_ofMembers`, for the settings of each kind — the fields that are kept are read, the others
  have their defaults (`given`).
* `read_render` — printing a document does not change what it says.
* `read_document` — settings that were written down in full are read back.
-/

namespace HostLink

namespace Json

/-! ## Values -/

def ofNat (n : Nat) : Json := .ofInt n

def ofOption : Option String → Json
  | none => .null
  | some text => .ofString text

theorem nat?_ofNat (n : Nat) : (ofNat n).nat? = some n := Nat.toNat?_repr n

theorem u32?_ofNat (v : UInt32) : (ofNat v.toNat).u32? = some v := by
  have small : v.toNat < 4294967296 := v.toNat_lt
  rw [u32?, nat?_ofNat]
  simp only [if_pos small, UInt32.ofNat_toNat]

theorem u64?_ofNat (v : UInt64) : (ofNat v.toNat).u64? = some v := by
  have small : v.toNat < 18446744073709551616 := v.toNat_lt
  rw [u64?, nat?_ofNat]
  simp only [if_pos small, UInt64.ofNat_toNat]

theorem optionalText?_ofOption (text : Option String) :
    (ofOption text).optionalText? = some text := by
  cases text with
  | none => rfl
  | some text =>
    have read : (ofOption (some text)).optionalText? = (ofString text).text?.map some := rfl
    rw [read, text?_ofString]
    rfl

theorem sound_ofOption (text : Option String) : (ofOption text).Sound := by
  cases text with
  | none => trivial
  | some text => exact written_ofString text

theorem sound_ofMembers {members : List (String × Json)} (sound : ∀ m ∈ members, m.2.Sound) :
    (ofMembers members).Sound := by
  induction members with
  | nil => trivial
  | cons m rest ih =>
    exact ⟨written_ofString m.1, sound m (by simp), ih fun m mem => sound m (by simp [mem])⟩

/-! ## Fields -/

theorem members?_cons (k : Literal) (v : Json) (members : List (Literal × Json)) :
    (Json.object ((k, v) :: members)).members? = k.text?.bind fun key =>
      (Json.object members).members?.map fun fields => (key, v) :: fields := by
  rw [members?, List.mapM_cons, Option.bind_eq_bind, Option.bind_map]
  refine congrArg k.text?.bind (funext fun key => ?_)
  rw [Option.map_eq_bind]
  rfl

theorem members?_ofMembers (members : List (String × Json)) :
    (ofMembers members).members? = some members := by
  have texts (k : String) : (Literal.ofString k).text? = some k := text?_ofString k
  induction members with
  | nil => rfl
  | cons m members ih =>
    rw [ofMembers] at ih
    rw [ofMembers, List.map_cons, members?_cons, ih, texts]
    rfl

/-- Among members with names of their own, the value of each is found under its name. -/
theorem lookup_of_mem {fields : List (String × Json)} (distinct : (fields.map Prod.fst).Nodup)
    {name : String} {j : Json} (mem : (name, j) ∈ fields) : fields.lookup name = some j := by
  obtain ⟨front, back, rfl⟩ := List.append_of_mem mem
  refine List.lookup_eq_some_iff.mpr ⟨front, back, rfl, fun p before => ?_⟩
  rw [List.map_append, List.nodup_append] at distinct
  have other := distinct.2.2 p.1 (List.mem_map_of_mem before) name (by simp)
  simpa using Ne.symm other

/-- The members give those of the fields that are kept, in any order and among others. -/
def Gives (fields : List (String × Json)) (keep : String → Bool)
    (members : List (String × Json)) : Prop :=
  (members.filter fun m => (fields.map Prod.fst).contains m.1).Perm
    (fields.filter fun f => keep f.1)

theorem gives_all (fields : List (String × Json)) : Gives fields (fun _ => true) fields := by
  have known : (fields.filter fun f => (fields.map Prod.fst).contains f.1) = fields :=
    List.filter_eq_self.mpr fun f mem => by simpa using ⟨f.2, mem⟩
  rw [Gives, known, List.filter_true]

/-- A field that is given has its value, and any other its default. -/
theorem Gives.record? {fields : List (String × Json)} {keep : String → Bool}
    {members : List (String × Json)} (gives : Gives fields keep members)
    (distinct : (fields.map Prod.fst).Nodup) :
    ∃ known, (ofMembers members).record? (fields.map Prod.fst) = some known ∧
      ∀ {α : Type} {name : String} (j : Json) {read : Json → Option α} {value default : α},
        (name, j) ∈ fields → read j = some value →
        field? known name read default = some (if keep name then value else default) := by
  let known := members.filter fun m => (fields.map Prod.fst).contains m.1
  have single : (known.map Prod.fst).Nodup :=
    (gives.map Prod.fst).nodup_iff.mpr (distinct.sublist (List.filter_sublist.map Prod.fst))
  have record : (ofMembers members).record? (fields.map Prod.fst) = some known := by
    have given := members?_ofMembers members
    rw [ofMembers] at given
    rw [ofMembers, Json.record?, given]
    exact if_pos single
  refine ⟨known, record, fun {α name} j {read value default} mem holds => ?_⟩
  by_cases kept : keep name = true
  · have there : (name, j) ∈ known := gives.mem_iff.mpr (List.mem_filter.mpr ⟨mem, kept⟩)
    rw [field?, lookup_of_mem single there, if_pos kept]
    exact holds
  · have absent : known.lookup name = none := by
      refine List.lookup_eq_none_iff.mpr fun p there => ?_
      have dropped : p.1 ≠ name := by
        rintro rfl
        exact kept (List.mem_filter.mp (gives.mem_iff.mp there)).2
      simpa using Ne.symm dropped
    rw [field?, absent, if_neg kept]

/-! ## Printing

What a document says does not depend on how its strings are escaped. -/

variable (j : Json)

theorem bool?_asRead : j.asRead.bool? = j.bool? := by cases j <;> rfl

theorem u32?_asRead : j.asRead.u32? = j.u32? := by cases j <;> rfl

theorem u64?_asRead : j.asRead.u64? = j.u64? := by cases j <;> rfl

theorem stringText?_asRead : j.asRead.text? = j.text? := by
  cases j with
  | string literal => exact text?_asRead literal
  | _ => rfl

theorem optionalText?_asRead : j.asRead.optionalText? = j.optionalText? := by
  cases j with
  | null => rfl
  | string literal => exact congrArg (Option.map some) (text?_asRead literal)
  | _ => rfl

theorem asReadItems_eq_map (items : List Json) : asReadItems items = items.map asRead := by
  induction items with
  | nil => rfl
  | cons j items ih => rw [asReadItems, ih, List.map_cons]

/-- The fields as they are read from a document that was printed. -/
def fieldsAsRead (fields : List (String × Json)) : List (String × Json) :=
  fields.map fun f => (f.1, f.2.asRead)

theorem membersAsRead (members : List (Literal × Json)) :
    (Json.object (asReadMembers members)).members? =
      (Json.object members).members?.map fieldsAsRead := by
  induction members with
  | nil => rfl
  | cons m members ih =>
    obtain ⟨k, v⟩ := m
    rw [asReadMembers, members?_cons, members?_cons, ih, text?_asRead]
    cases k.text? with
    | none => rfl
    | some key => cases (Json.object members).members? <;> rfl

theorem record?_asRead (names : List String) :
    j.asRead.record? names = (j.record? names).map fieldsAsRead := by
  cases j with
  | array items =>
    rw [asRead, record?, record?, asReadItems_eq_map, List.length_map]
    by_cases few : items.length ≤ names.length
    · rw [if_pos few, if_pos few, List.zip_map_right]
      rfl
    · rw [if_neg few, if_neg few, Option.map_none]
  | object members =>
    rw [asRead, record?, record?, membersAsRead]
    cases (Json.object members).members? with
    | none => rfl
    | some fields =>
      have known : (fieldsAsRead fields).filter (fun m => names.contains m.1) =
          fieldsAsRead (fields.filter fun m => names.contains m.1) := List.filter_map
      have same (fields : List (String × Json)) :
          (fieldsAsRead fields).map Prod.fst = fields.map Prod.fst := by
        rw [fieldsAsRead, List.map_map]
        rfl
      simp only [Option.map_some, known, same]
      split <;> rfl
  | _ => rfl

theorem field?_asRead {α : Type} {read : Json → Option α}
    (same : ∀ j : Json, read j.asRead = read j) (fields : List (String × Json)) (name : String)
    (default : α) :
    field? (fieldsAsRead fields) name read default = field? fields name read default := by
  have found : (fieldsAsRead fields).lookup name = (fields.lookup name).map asRead := by
    induction fields with
    | nil => rfl
    | cons f fields ih =>
      rw [fieldsAsRead] at ih
      rw [fieldsAsRead, List.map_cons, List.lookup_cons, List.lookup_cons, ih]
      cases name == f.1 <;> rfl
  rw [field?, field?, found]
  cases fields.lookup name with
  | none => rfl
  | some j => exact same j

end Json

/-! ## Timings -/

namespace PauseSettings

def fields (c : PauseSettings) : List (String × Json) :=
  [("enabled", .bool c.enabled),
    ("pause_timeout_secs", .ofNat c.pauseTimeout.toNat),
    ("keepalive_interval_secs", .ofNat c.keepaliveInterval.toNat),
    ("keepalive_min_skipped", .ofNat c.keepaliveMinSkipped.toNat)]

/-- The settings that have only some of these values, and the defaults for the others. -/
def given (keep : String → Bool) (c : PauseSettings) : PauseSettings :=
  let base : PauseSettings := {}
  { enabled := if keep "enabled" then c.enabled else base.enabled
    pauseTimeout := if keep "pause_timeout_secs" then c.pauseTimeout else base.pauseTimeout
    keepaliveInterval :=
      if keep "keepalive_interval_secs" then c.keepaliveInterval else base.keepaliveInterval
    keepaliveMinSkipped :=
      if keep "keepalive_min_skipped" then c.keepaliveMinSkipped else base.keepaliveMinSkipped }

theorem ofJson?_ofMembers {c : PauseSettings} {keep : String → Bool}
    {members : List (String × Json)} (gives : Json.Gives c.fields keep members) :
    ofJson? (.ofMembers members) = some (c.given keep) := by
  have names : c.fields.map Prod.fst = ["enabled", "pause_timeout_secs",
    "keepalive_interval_secs", "keepalive_min_skipped"] := rfl
  obtain ⟨known, record, field⟩ := gives.record? (by rw [names]; decide)
  rw [names] at record
  let base : PauseSettings := {}
  have enabled : Json.field? known "enabled" Json.bool? base.enabled =
      some (c.given keep).enabled :=
    field (.bool c.enabled) (by simp [fields]) rfl
  have timeout : Json.field? known "pause_timeout_secs" Json.u64? base.pauseTimeout =
      some (c.given keep).pauseTimeout :=
    field (.ofNat c.pauseTimeout.toNat) (by simp [fields]) (Json.u64?_ofNat _)
  have interval : Json.field? known "keepalive_interval_secs" Json.u64? base.keepaliveInterval =
      some (c.given keep).keepaliveInterval :=
    field (.ofNat c.keepaliveInterval.toNat) (by simp [fields]) (Json.u64?_ofNat _)
  have skipped : Json.field? known "keepalive_min_skipped" Json.u32? base.keepaliveMinSkipped =
      some (c.given keep).keepaliveMinSkipped :=
    field (.ofNat c.keepaliveMinSkipped.toNat) (by simp [fields]) (Json.u32?_ofNat _)
  rw [ofJson?, record]
  dsimp only [Option.bind_eq_bind, Option.bind_some]
  rw [enabled, timeout, interval, skipped]
  rfl

theorem ofJson?_asRead (j : Json) : ofJson? j.asRead = ofJson? j := by
  rw [ofJson?, ofJson?, Json.record?_asRead, Option.bind_eq_bind, Option.bind_map]
  simp only [Function.comp_def, Json.field?_asRead Json.bool?_asRead,
    Json.field?_asRead Json.u64?_asRead, Json.field?_asRead Json.u32?_asRead]

end PauseSettings

/-! ## The settings of a pipe -/

namespace PipeSettings

def fields (c : PipeSettings) : List (String × Json) :=
  [("name", .ofString c.name),
    ("path", .ofOption c.path),
    ("poll_interval_ms", .ofNat c.pollInterval.toNat),
    ("connect_timeout_ms", .ofNat c.connectTimeout.toNat),
    ("max_payload_size", .ofNat c.maxPayloadSize.toNat)]

/-- The settings that have only some of these values, and the defaults for the others. -/
def given (keep : String → Bool) (c : PipeSettings) : PipeSettings :=
  let base : PipeSettings := {}
  { name := if keep "name" then c.name else base.name
    path := if keep "path" then c.path else base.path
    pollInterval := if keep "poll_interval_ms" then c.pollInterval else base.pollInterval
    connectTimeout := if keep "connect_timeout_ms" then c.connectTimeout else base.connectTimeout
    maxPayloadSize := if keep "max_payload_size" then c.maxPayloadSize else base.maxPayloadSize }

theorem ofJson?_ofMembers {c : PipeSettings} {keep : String → Bool}
    {members : List (String × Json)} (gives : Json.Gives c.fields keep members) :
    ofJson? (.ofMembers members) = some (c.given keep) := by
  have names : c.fields.map Prod.fst =
    ["name", "path", "poll_interval_ms", "connect_timeout_ms", "max_payload_size"] := rfl
  obtain ⟨known, record, field⟩ := gives.record? (by rw [names]; decide)
  rw [names] at record
  let base : PipeSettings := {}
  have name : Json.field? known "name" Json.text? base.name = some (c.given keep).name :=
    field (.ofString c.name) (by simp [fields]) (Json.text?_ofString _)
  have path : Json.field? known "path" Json.optionalText? base.path = some (c.given keep).path :=
    field (.ofOption c.path) (by simp [fields]) (Json.optionalText?_ofOption _)
  have poll : Json.field? known "poll_interval_ms" Json.u64? base.pollInterval =
      some (c.given keep).pollInterval :=
    field (.ofNat c.pollInterval.toNat) (by simp [fields]) (Json.u64?_ofNat _)
  have timeout : Json.field? known "connect_timeout_ms" Json.u64? base.connectTimeout =
      some (c.given keep).connectTimeout :=
    field (.ofNat c.connectTimeout.toNat) (by simp [fields]) (Json.u64?_ofNat _)
  have limit : Json.field? known "max_payload_size" Json.u32? base.maxPayloadSize =
      some (c.given keep).maxPayloadSize :=
    field (.ofNat c.maxPayloadSize.toNat) (by simp [fields]) (Json.u32?_ofNat _)
  rw [ofJson?, record]
  dsimp only [Option.bind_eq_bind, Option.bind_some]
  rw [name, path, poll, timeout, limit]
  rfl

theorem ofJson?_asRead (j : Json) : ofJson? j.asRead = ofJson? j := by
  rw [ofJson?, ofJson?, Json.record?_asRead, Option.bind_eq_bind, Option.bind_map]
  simp only [Function.comp_def, Json.field?_asRead Json.stringText?_asRead,
    Json.field?_asRead Json.optionalText?_asRead, Json.field?_asRead Json.u64?_asRead,
    Json.field?_asRead Json.u32?_asRead]

/-- A document that is printed describes the settings that it described before. -/
theorem read_render {j : Json} (sound : j.Sound) {c : PipeSettings} (holds : ofJson? j = some c) :
    read j.render = .ok c := by
  rw [read, Json.read?_render sound]
  dsimp only
  rw [ofJson?_asRead, holds]

def document (c : PipeSettings) : Json := .ofMembers c.fields

theorem read_document (c : PipeSettings) : read c.document.render = .ok c := by
  have sound : c.document.Sound := by
    refine Json.sound_ofMembers ?_
    simp only [fields, List.forall_mem_cons]
    exact ⟨Json.written_ofString _, Json.sound_ofOption _, Json.sound_ofInt _, Json.sound_ofInt _,
      Json.sound_ofInt _, by simp⟩
  exact read_render sound (ofJson?_ofMembers (Json.gives_all c.fields))

/-- Whatever the settings say, there is time for the peer to do something. -/
theorem waits_pos (c : PipeSettings) : 0 < c.pollWait ∧ 0 < c.connectWait := by
  unfold pollWait connectWait
  omega

/-- Pipes without a path of their own are found in one place only if they have one name. -/
theorem socketPath_inj {c d : PipeSettings} (unplaced : c.path = none) (unplaced' : d.path = none) :
    c.socketPath = d.socketPath ↔ c.name = d.name := by
  unfold socketPath
  rw [unplaced, unplaced']
  constructor
  · intro same
    have chars := congrArg String.toList same
    simp only [String.toList_append, List.append_cancel_right_eq,
      List.append_cancel_left_eq] at chars
    exact String.toList_injective chars
  · intro same
    rw [same]

end PipeSettings

/-! ## The settings of a session -/

namespace SessionSettings

/-- The fields of a session's settings, with the document that gives the timings. -/
def fields (timings : Json) (c : SessionSettings) : List (String × Json) :=
  [("max_payload_size", .ofNat c.maxPayloadSize.toNat),
    ("protocol_version", .ofNat c.protocolVersion.toNat),
    ("build_version", .ofNat c.buildVersion.toNat),
    ("working_dir", .ofOption c.workingDir),
    ("init_callback", .ofString c.initCallback),
    ("exit_callback", .ofString c.exitCallback),
    ("init_command", .ofString c.initCommand),
    ("debug", timings)]

/-- The settings that have only some of these values, and the defaults for the others. No document
gives the process's directory. -/
def given (keep : String → Bool) (c : SessionSettings) : SessionSettings :=
  let base : SessionSettings := {}
  { maxPayloadSize := if keep "max_payload_size" then c.maxPayloadSize else base.maxPayloadSize
    protocolVersion := if keep "protocol_version" then c.protocolVersion else base.protocolVersion
    buildVersion := if keep "build_version" then c.buildVersion else base.buildVersion
    workingDir := if keep "working_dir" then c.workingDir else base.workingDir
    initCallback := if keep "init_callback" then c.initCallback else base.initCallback
    exitCallback := if keep "exit_callback" then c.exitCallback else base.exitCallback
    initCommand := if keep "init_command" then c.initCommand else base.initCommand
    pause := if keep "debug" then c.pause else base.pause }

theorem ofJson?_ofMembers {c : SessionSettings} {timings : Json} {keep : String → Bool}
    {members : List (String × Json)} (pause : PauseSettings.ofJson? timings = some c.pause)
    (gives : Json.Gives (c.fields timings) keep members) :
    ofJson? (.ofMembers members) = some (c.given keep) := by
  have names : (c.fields timings).map Prod.fst = ["max_payload_size", "protocol_version",
    "build_version", "working_dir", "init_callback", "exit_callback", "init_command",
    "debug"] := rfl
  obtain ⟨known, record, field⟩ := gives.record? (by rw [names]; decide)
  rw [names] at record
  let base : SessionSettings := {}
  have limit : Json.field? known "max_payload_size" Json.u32? base.maxPayloadSize =
      some (c.given keep).maxPayloadSize :=
    field (.ofNat c.maxPayloadSize.toNat) (by simp [fields]) (Json.u32?_ofNat _)
  have protocol : Json.field? known "protocol_version" Json.u32? base.protocolVersion =
      some (c.given keep).protocolVersion :=
    field (.ofNat c.protocolVersion.toNat) (by simp [fields]) (Json.u32?_ofNat _)
  have build : Json.field? known "build_version" Json.u32? base.buildVersion =
      some (c.given keep).buildVersion :=
    field (.ofNat c.buildVersion.toNat) (by simp [fields]) (Json.u32?_ofNat _)
  have dir : Json.field? known "working_dir" Json.optionalText? base.workingDir =
      some (c.given keep).workingDir :=
    field (.ofOption c.workingDir) (by simp [fields]) (Json.optionalText?_ofOption _)
  have init : Json.field? known "init_callback" Json.text? base.initCallback =
      some (c.given keep).initCallback :=
    field (.ofString c.initCallback) (by simp [fields]) (Json.text?_ofString _)
  have exit : Json.field? known "exit_callback" Json.text? base.exitCallback =
      some (c.given keep).exitCallback :=
    field (.ofString c.exitCallback) (by simp [fields]) (Json.text?_ofString _)
  have command : Json.field? known "init_command" Json.text? base.initCommand =
      some (c.given keep).initCommand :=
    field (.ofString c.initCommand) (by simp [fields]) (Json.text?_ofString _)
  have debug : Json.field? known "debug" PauseSettings.ofJson? base.pause =
      some (c.given keep).pause :=
    field timings (by simp [fields]) pause
  rw [ofJson?, record]
  dsimp only [Option.bind_eq_bind, Option.bind_some]
  rw [limit, protocol, build, dir, init, exit, command, debug]
  rfl

/-- One timing is given, and everything else is as it is by default. -/
example : ofJson? (.ofMembers [("extra", .null), ("debug", .ofMembers [("enabled", .bool false)])])
    = some { pause := { enabled := false } } := by
  decide +kernel

theorem ofJson?_asRead (j : Json) : ofJson? j.asRead = ofJson? j := by
  rw [ofJson?, ofJson?, Json.record?_asRead, Option.bind_eq_bind, Option.bind_map]
  simp only [Function.comp_def, Json.field?_asRead Json.u32?_asRead,
    Json.field?_asRead Json.optionalText?_asRead, Json.field?_asRead Json.stringText?_asRead,
    Json.field?_asRead PauseSettings.ofJson?_asRead]

/-- A document that is printed describes the settings that it described before. -/
theorem read_render {j : Json} (sound : j.Sound) {c : SessionSettings}
    (holds : ofJson? j = some c) : read j.render = .ok c := by
  rw [read, Json.read?_render sound]
  dsimp only
  rw [ofJson?_asRead, holds]

def document (c : SessionSettings) : Json := .ofMembers (c.fields (.ofMembers c.pause.fields))

/-- What a document says of a session is read back; the process's directory is none of it. -/
theorem read_document (c : SessionSettings) :
    read c.document.render = .ok { c with processDir := ({} : SessionSettings).processDir } := by
  have timings : (Json.ofMembers c.pause.fields).Sound := by
    refine Json.sound_ofMembers ?_
    simp only [PauseSettings.fields, List.forall_mem_cons]
    exact ⟨trivial, Json.sound_ofInt _, Json.sound_ofInt _, Json.sound_ofInt _, by simp⟩
  have sound : c.document.Sound := by
    refine Json.sound_ofMembers ?_
    simp only [fields, List.forall_mem_cons]
    exact ⟨Json.sound_ofInt _, Json.sound_ofInt _, Json.sound_ofInt _, Json.sound_ofOption _,
      Json.written_ofString _, Json.written_ofString _, Json.written_ofString _, timings, by simp⟩
  have pause : PauseSettings.ofJson? (.ofMembers c.pause.fields) = some c.pause :=
    PauseSettings.ofJson?_ofMembers (Json.gives_all c.pause.fields)
  exact read_render sound (ofJson?_ofMembers pause (Json.gives_all _))

end SessionSettings

end HostLink
