import ChainRemote.Lib.Crowd
import ChainRemote.Panel.Folders

/-!
# Folders of one company

`assignFolder` looks whether a folder is the company's own before it writes, and other requests run
between the two. A folder that is deleted meanwhile is refused as a reference, and its id is not
drawn again, so no customer comes into a folder of another company; with that, no request changes a
row of another company, the deletion of a whole company included.
-/

namespace ChainRemote.Panel.Folders

open Lib

/-- Customers are in folders of their own company, and folders have names. -/
structure Filed (t : Tables) : Prop where
  own : ∀ c ∈ t.customers, ∀ f ∈ t.folders, c.folderId = some f.id → f.tenantId = c.tenantId
  named : ∀ f ∈ t.folders, f.name ≠ ""

/-- Ids are not drawn again and folders stay with their company. -/
structure Later (s t : Tables) : Prop where
  drawn : s.nextId ≤ t.nextId
  folders : ∀ f ∈ t.folders, f.id < s.nextId →
    ∃ g ∈ s.folders, g.id = f.id ∧ g.tenantId = f.tenantId

/-- The rows of all other companies are as before. -/
structure Apart (tenantId : Option Nat) (s t : Tables) : Prop where
  folders : ∀ other, some other ≠ tenantId →
    t.folders.filter (·.tenantId == other) = s.folders.filter (·.tenantId == other)
  customers : ∀ other, some other ≠ tenantId →
    t.customers.filter (·.tenantId == other) = s.customers.filter (·.tenantId == other)

/-- A folder that was one of the company's, whether it is still there or not. -/
structure Owns (t : Tables) (tenantId id : Nat) : Prop where
  drawn : id < t.nextId
  tenant : ∀ f ∈ t.folders, f.id = id → f.tenantId = tenantId

/-- A write of a company that names no other one and no folder of another one. -/
def Stmt.Safe (tenantId : Option Nat) (t : Tables) : Stmt → Prop
  | .insertFolder tenant name | .renameFolder _ tenant name => some tenant = tenantId ∧ name ≠ ""
  | .deleteFolder _ tenant | .deleteCustomer _ tenant => some tenant = tenantId
  | .setFolder _ tenant folderId => some tenant = tenantId ∧ ∀ id ∈ folderId, Owns t tenant id
  | .insertCustomer values =>
    some values.tenantId = tenantId ∧ ∀ id ∈ values.folderId, Owns t values.tenantId id
  | .updateCustomer _ tenant fields _ =>
    some tenant = tenantId ∧ ∀ id, fields.folderId = some (some id) → Owns t tenant id
  | .insertTenant => True
  | .deleteTenant tenant => some tenant = tenantId

section Writes

variable {s t u : Tables} {tenantId : Option Nat}

theorem Later.refl (t : Tables) : Later t t :=
  ⟨Nat.le_refl _, fun f there _ => ⟨f, there, rfl, rfl⟩⟩

theorem Later.trans (first : Later s t) (second : Later t u) : Later s u := by
  refine ⟨Nat.le_trans first.drawn second.drawn, fun f there old => ?_⟩
  have below := Nat.lt_of_lt_of_le old first.drawn
  obtain ⟨g, among, same, tenant⟩ := second.folders f there below
  obtain ⟨h, first', same', tenant'⟩ := first.folders g among (by omega)
  exact ⟨h, first', same'.trans same, tenant'.trans tenant⟩

theorem Owns.later {tenant id : Nat} (owns : Owns s tenant id) (later : Later s t) :
    Owns t tenant id := by
  refine ⟨Nat.lt_of_lt_of_le owns.drawn later.drawn, fun f there same => ?_⟩
  have drawn := owns.drawn
  obtain ⟨g, among, is, tenant'⟩ := later.folders f there (by omega)
  rw [← tenant']
  exact owns.tenant g among (is.trans same)

theorem withoutFolders_tenantId (gone : List Folder) (c : Customer) :
    (withoutFolders gone c).tenantId = c.tenantId := by
  unfold withoutFolders
  split
  · rfl
  · rfl

theorem withoutFolders_folderId {gone : List Folder} {c : Customer} {id : Nat}
    (still : (withoutFolders gone c).folderId = some id) : c.folderId = some id := by
  unfold withoutFolders at still
  split at still
  · cases still
  · exact still

/-- A customer of another company is in none of the folders that go. -/
theorem withoutFolders_apart (filed : Filed t) {gone : List Folder} {tenant : Nat}
    (theirs : ∀ f ∈ gone, f ∈ t.folders ∧ f.tenantId = tenant) {c : Customer}
    (there : c ∈ t.customers) (apart : c.tenantId ≠ tenant) : withoutFolders gone c = c := by
  refine if_neg fun inside => ?_
  obtain ⟨id, is, hit⟩ := (Option.any_eq_true _ _).mp inside
  obtain ⟨f, among, same⟩ := List.any_eq_true.mp hit
  obtain ⟨listed, own⟩ := theirs f among
  have named : c.folderId = some f.id := by
    rw [is, beq_iff_eq.mp same]
  exact apart ((filed.own c there f listed named).symm.trans own)

/-- A write draws new ids only and leaves folders with their company. -/
theorem Stmt.later (stmt : Stmt) (t : Tables) : Later t (stmt.tables t) := by
  have fewer {folders : List Folder} (some_ : ∀ f ∈ folders, f ∈ t.folders) :
      ∀ f ∈ folders, f.id < t.nextId → ∃ g ∈ t.folders, g.id = f.id ∧ g.tenantId = f.tenantId :=
    fun f there _ => ⟨f, some_ f there, rfl, rfl⟩
  cases stmt with
  | insertFolder tenant name =>
    refine ⟨Nat.le_succ _, fun f there old => ?_⟩
    rcases List.mem_append.mp there with before | new
    · exact ⟨f, before, rfl, rfl⟩
    · obtain rfl := List.mem_singleton.mp new
      exact absurd old (Nat.lt_irrefl _)
  | renameFolder id tenant name =>
    refine ⟨Nat.le_refl _, fun f there _ => ?_⟩
    rcases mem_updateWhere.mp there with ⟨g, before, -, rfl⟩ | ⟨before, -⟩
    · exact ⟨g, before, rfl, rfl⟩
    · exact ⟨f, before, rfl, rfl⟩
  | deleteFolder id tenant =>
    exact ⟨Nat.le_refl _, fewer fun f there => (List.mem_filter.mp there).1⟩
  | deleteTenant id =>
    exact ⟨Nat.le_refl _, fewer fun f there => (List.mem_filter.mp there).1⟩
  | insertCustomer values => exact ⟨Nat.le_succ _, fewer fun _ there => there⟩
  | insertTenant => exact ⟨Nat.le_succ _, fewer fun _ there => there⟩
  | setFolder customerId tenant folderId => exact ⟨Nat.le_refl _, fewer fun _ there => there⟩
  | updateCustomer id tenant fields now => exact ⟨Nat.le_refl _, fewer fun _ there => there⟩
  | deleteCustomer id tenant => exact ⟨Nat.le_refl _, fewer fun _ there => there⟩

/-- A safe write leaves customers in folders of their own company. -/
theorem Stmt.filed (valid : t.Valid) (filed : Filed t) {stmt : Stmt}
    (safe : stmt.Safe tenantId t) : Filed (stmt.tables t) := by
  cases stmt with
  | insertFolder tenant name =>
    refine ⟨fun c there f among inside => ?_, fun f among => ?_⟩
    · rcases List.mem_append.mp among with before | new
      · exact filed.own c there f before inside
      · obtain rfl := List.mem_singleton.mp new
        obtain ⟨g, listed, drawn⟩ := List.mem_map.mp (valid.customerFolders c there _ inside)
        have below := valid.foldersBelow g listed
        have same : g.id = t.nextId := drawn
        omega
    · rcases List.mem_append.mp among with before | new
      · exact filed.named f before
      · obtain rfl := List.mem_singleton.mp new
        exact safe.2
  | renameFolder id tenant name =>
    refine ⟨fun c there f among inside => ?_, fun f among => ?_⟩
    · rcases mem_updateWhere.mp among with ⟨g, before, -, rfl⟩ | ⟨before, -⟩
      · exact filed.own c there g before inside
      · exact filed.own c there f before inside
    · rcases mem_updateWhere.mp among with ⟨g, before, -, rfl⟩ | ⟨before, -⟩
      · exact safe.2
      · exact filed.named f before
  | deleteFolder id tenant =>
    refine ⟨fun c there f among inside => ?_, fun f among => ?_⟩
    · obtain ⟨b, before, rfl⟩ := List.mem_map.mp there
      rw [withoutFolders_tenantId]
      exact filed.own b before f (List.mem_filter.mp among).1 (withoutFolders_folderId inside)
    · exact filed.named f (List.mem_filter.mp among).1
  | setFolder customerId tenant folderId =>
    refine ⟨fun c there f among inside => ?_, filed.named⟩
    rcases mem_updateWhere.mp there with ⟨b, before, own, rfl⟩ | ⟨before, -⟩
    · have theirs : b.tenantId = tenant := beq_iff_eq.mp (Bool.and_eq_true_iff.mp own).2
      have given : folderId = some f.id := inside
      exact ((safe.2 f.id given).tenant f among rfl).trans theirs.symm
    · exact filed.own c before f among inside
  | insertCustomer values =>
    refine ⟨fun c there f among inside => ?_, filed.named⟩
    rcases List.mem_append.mp there with before | new
    · exact filed.own c before f among inside
    · obtain rfl := List.mem_singleton.mp new
      have given : values.folderId = some f.id := inside
      exact (safe.2 f.id given).tenant f among rfl
  | updateCustomer id tenant fields now =>
    refine ⟨fun c there f among inside => ?_, filed.named⟩
    rcases mem_updateWhere.mp there with ⟨b, before, own, rfl⟩ | ⟨before, -⟩
    · have theirs : b.tenantId = tenant := beq_iff_eq.mp (Bool.and_eq_true_iff.mp own).2
      have set : fields.folderId.getD b.folderId = some f.id := inside
      cases given : fields.folderId with
      | none =>
        rw [given] at set
        exact filed.own b before f among set
      | some folderId =>
        rw [given] at set
        have named : fields.folderId = some (some f.id) := by
          rw [given]
          exact congrArg some set
        exact ((safe.2 f.id named).tenant f among rfl).trans theirs.symm
    · exact filed.own c before f among inside
  | deleteCustomer id tenant =>
    exact ⟨fun c there => filed.own c (List.mem_filter.mp there).1, filed.named⟩
  | insertTenant => exact ⟨filed.own, filed.named⟩
  | deleteTenant id =>
    refine ⟨fun c there f among inside => ?_, fun f among => ?_⟩
    · obtain ⟨b, before, rfl⟩ := List.mem_map.mp there
      rw [withoutFolders_tenantId]
      exact filed.own b (List.mem_filter.mp before).1 f (List.mem_filter.mp among).1
        (withoutFolders_folderId inside)
    · exact filed.named f (List.mem_filter.mp among).1

/-- Rows of another company are none of those that a clause on the company selects. -/
theorem filter_other {α : Type} {rows : List α} {tenant : α → Nat} {here : α → Bool} {own : Nat}
    (theirs : ∀ row, here row = true → tenant row = own) {other : Nat} (apart : other ≠ own) :
    (rows.filter fun row => !here row).filter (tenant · == other) =
      rows.filter (tenant · == other) := by
  rw [List.filter_filter]
  refine List.filter_congr fun row _ => ?_
  cases hit : here row with
  | false => rw [Bool.not_false, Bool.and_true]
  | true =>
    have away : (tenant row == other) = false := by
      rw [theirs row hit]
      exact beq_eq_false_iff_ne.mpr (Ne.symm apart)
    rw [away, Bool.false_and]

/-- A safe write leaves the rows of all other companies alone. -/
theorem Stmt.apart (filed : Filed t) {stmt : Stmt} (safe : stmt.Safe tenantId t) :
    Apart tenantId t (stmt.tables t) := by
  have differs {tenant other : Nat} (own : some tenant = tenantId) (apart : some other ≠ tenantId) :
      other ≠ tenant := fun same => apart (by rw [same]; exact own)
  have unset (tenant other : Nat) {gone : List Folder}
      (theirs : ∀ f ∈ gone, f ∈ t.folders ∧ f.tenantId = tenant) (apart : other ≠ tenant)
      {rows : List Customer} (among : ∀ c ∈ rows, c ∈ t.customers) :
      (rows.map (withoutFolders gone)).filter (·.tenantId == other) =
        rows.filter (·.tenantId == other) := by
    induction rows with
    | nil => rfl
    | cons c rows ih =>
      have rest := ih fun b there => among b (List.mem_cons_of_mem _ there)
      rw [List.map_cons, List.filter_cons, List.filter_cons, withoutFolders_tenantId, rest]
      by_cases mine : c.tenantId = other
      · have same := withoutFolders_apart filed theirs (among c List.mem_cons_self)
          (mine ▸ apart : c.tenantId ≠ tenant)
        rw [same]
      · rw [if_neg (mt beq_iff_eq.mp mine), if_neg (mt beq_iff_eq.mp mine)]
  cases stmt with
  | insertFolder tenant name =>
    refine ⟨fun other apart => ?_, fun _ _ => rfl⟩
    have away : (tenant == other) = false :=
      beq_eq_false_iff_ne.mpr (Ne.symm (differs safe.1 apart))
    dsimp only [Stmt.tables]
    rw [List.filter_append, List.filter_cons, away]
    exact List.append_nil _
  | renameFolder id tenant name =>
    refine ⟨fun other apart => filter_updateWhere _ fun f _ own => ?_, fun _ _ => rfl⟩
    have theirs : f.tenantId = tenant := beq_iff_eq.mp (Bool.and_eq_true_iff.mp own).2
    have away : (f.tenantId == other) = false := by
      rw [theirs]
      exact beq_eq_false_iff_ne.mpr (Ne.symm (differs safe.1 apart))
    exact ⟨away, away⟩
  | deleteFolder id tenant =>
    refine ⟨fun other apart => ?_, fun other apart => ?_⟩
    · exact filter_other (fun f own => beq_iff_eq.mp (Bool.and_eq_true_iff.mp own).2)
        (differs safe apart)
    · refine unset tenant other (fun f there => ?_) (differs safe apart) fun _ there => there
      obtain ⟨among, own⟩ := List.mem_filter.mp there
      exact ⟨among, beq_iff_eq.mp (Bool.and_eq_true_iff.mp own).2⟩
  | setFolder customerId tenant folderId =>
    refine ⟨fun _ _ => rfl, fun other apart => filter_updateWhere _ fun c _ own => ?_⟩
    have theirs : c.tenantId = tenant := beq_iff_eq.mp (Bool.and_eq_true_iff.mp own).2
    have away : (c.tenantId == other) = false := by
      rw [theirs]
      exact beq_eq_false_iff_ne.mpr (Ne.symm (differs safe.1 apart))
    exact ⟨away, away⟩
  | insertCustomer values =>
    refine ⟨fun _ _ => rfl, fun other apart => ?_⟩
    have away : ((values.withId t.nextId).tenantId == other) = false :=
      beq_eq_false_iff_ne.mpr (Ne.symm (differs safe.1 apart))
    dsimp only [Stmt.tables]
    rw [List.filter_append, List.filter_cons, away]
    exact List.append_nil _
  | updateCustomer id tenant fields now =>
    refine ⟨fun _ _ => rfl, fun other apart => filter_updateWhere _ fun c _ own => ?_⟩
    have theirs : c.tenantId = tenant := beq_iff_eq.mp (Bool.and_eq_true_iff.mp own).2
    have away : (c.tenantId == other) = false := by
      rw [theirs]
      exact beq_eq_false_iff_ne.mpr (Ne.symm (differs safe.1 apart))
    exact ⟨away, away⟩
  | deleteCustomer id tenant =>
    refine ⟨fun _ _ => rfl, fun other apart => ?_⟩
    exact filter_other (fun c own => beq_iff_eq.mp (Bool.and_eq_true_iff.mp own).2)
      (differs safe apart)
  | insertTenant => exact ⟨fun _ _ => rfl, fun _ _ => rfl⟩
  | deleteTenant id =>
    refine ⟨fun other apart => ?_, fun other apart => ?_⟩
    · have theirs (f : Folder) (own : (f.tenantId == id) = true) : f.tenantId = id :=
        beq_iff_eq.mp own
      exact filter_other theirs (differs safe apart)
    · refine (unset id other (fun f there => ?_) (differs safe apart) fun c there => ?_).trans ?_
      · obtain ⟨among, own⟩ := List.mem_filter.mp there
        exact ⟨among, beq_iff_eq.mp own⟩
      · exact (List.mem_filter.mp there).1
      · have theirs (c : Customer) (own : (c.tenantId == id) = true) : c.tenantId = id :=
          beq_iff_eq.mp own
        exact filter_other theirs (differs safe apart)

end Writes

/-! ## Calls of any number of clients -/

/-- A call for a company, or for all of them. -/
inductive Call
  | createFolder (tenantId : Nat) (name : String)
  | renameFolder (id : Nat) (name : String) (tenantId : Nat)
  | deleteFolder (id tenantId : Nat)
  | assignFolder (customerId : Nat) (folderId : Option Nat) (tenantId : Nat)
  | moveToFolder (remoteId : String) (folderId : Option Nat) (tenantId : Nat)
  | createCustomer (folderName : Option String) (fields : CustomerFields)
      (tenantId userId now : Nat)
  | updateCustomer (id : Nat) (folderName : Option String) (fields : CustomerFields)
      (tenantId now : Nat)
  | postCustomer (fields : CustomerFields) (tenantId userId now : Nat)
  | patchCustomer (id : Nat) (fields : CustomerFields) (tenantId now : Nat)
  | importPeer (input : PeerInput) (tenantId userId now : Nat)
  | deleteCustomer (id tenantId : Nat)
  | createTenant
  | deleteTenantCascade (id : Nat)

/-- The statements of a call. -/
def Call.client : Call → Client
  | .createFolder tenantId name => Folders.createFolder tenantId name
  | .renameFolder id name tenantId => Folders.renameFolder id name tenantId
  | .deleteFolder id tenantId => Folders.deleteFolder id tenantId
  | .assignFolder customerId folderId tenantId => Folders.assignFolder customerId folderId tenantId
  | .moveToFolder remoteId folderId tenantId => Folders.moveToFolder remoteId folderId tenantId
  | .createCustomer folderName fields tenantId userId now =>
    Folders.createCustomer folderName fields tenantId userId now
  | .updateCustomer id folderName fields tenantId now =>
    Folders.updateCustomer id folderName fields tenantId now
  | .postCustomer fields tenantId userId now => Folders.postCustomer fields tenantId userId now
  | .patchCustomer id fields tenantId now => Folders.patchCustomer id fields tenantId now
  | .importPeer input tenantId userId now => Folders.importPeer input tenantId userId now
  | .deleteCustomer id tenantId => Folders.deleteCustomer id tenantId
  | .createTenant => Folders.createTenant
  | .deleteTenantCascade id => Folders.deleteTenantCascade id

/-- The company that a call is for. -/
def Call.tenantId : Call → Option Nat
  | .createFolder tenantId _ | .renameFolder _ _ tenantId | .deleteFolder _ tenantId
  | .assignFolder _ _ tenantId | .moveToFolder _ _ tenantId | .createCustomer _ _ tenantId _ _
  | .updateCustomer _ _ _ tenantId _ | .postCustomer _ tenantId _ _ | .patchCustomer _ _ tenantId _
  | .importPeer _ tenantId _ _ | .deleteCustomer _ tenantId => some tenantId
  | .createTenant => none
  | .deleteTenantCascade id => some id

/-- The others keep customers in folders of their own company and draw new ids only; so does a call,
which leaves the rows of all other companies alone. -/
def contract (tenantId : Option Nat) : Contract Db Stmt FolderError Answer where
  rely s t := Filed s.toTables → Filed t.toTables ∧ Later s.toTables t.toTables
  guar w := Filed w.before.toTables → Filed w.after.toTables ∧
    Later w.before.toTables w.after.toTables ∧ Apart tenantId w.before.toTables w.after.toTables
  post _ _ := True
  refl _ := fun filed => ⟨filed, Later.refl _⟩
  trans first second := fun filed =>
    let one := first filed
    let two := second one.1
    ⟨two.1, one.2.trans two.2⟩

section Contracts

variable {fault : FolderError → Prop} {tenantId : Option Nat} {last : Option (Written Db Stmt)}
  {s : Db}

theorem Stmt.Safe.later {s t : Tables} {stmt : Stmt} (safe : stmt.Safe tenantId s)
    (later : Later s t) : stmt.Safe tenantId t := by
  cases stmt with
  | setFolder customerId tenant folderId =>
    exact ⟨safe.1, fun id given => (safe.2 id given).later later⟩
  | insertCustomer values => exact ⟨safe.1, fun id given => (safe.2 id given).later later⟩
  | updateCustomer id tenant fields now =>
    exact ⟨safe.1, fun id given => (safe.2 id given).later later⟩
  | insertFolder tenant name => exact safe
  | renameFolder id tenant name => exact safe
  | deleteFolder id tenant => exact safe
  | deleteCustomer id tenant => exact safe
  | insertTenant => exact safe
  | deleteTenant id => exact safe

/-- A safe write may be sent, whatever comes between; what follows it goes on from what it
returned. -/
theorem meets_write (filed : Filed s.toTables) {stmt : Stmt} (safe : stmt.Safe tenantId s.toTables)
    {next : Rows → Client}
    (goesOn : ∀ out before after last, Filed before.toTables →
      act stmt before = .ok (out, after) → Filed after.toTables →
      Meets act fault (contract tenantId) (next out) last after) :
    Meets act fault (contract tenantId) (.write stmt next .throw) last s := by
  intro t others
  obtain ⟨still, later⟩ := others filed
  refine ⟨fun out u done => ?_, fun error _ => trivial⟩
  have kept := safe.later later
  have tables := (act_ok done).1
  have after : Filed u.toTables := by
    rw [tables]
    exact Stmt.filed t.valid still kept
  refine ⟨fun _ => ⟨after, ?_, ?_⟩, goesOn out t u _ still done after⟩
  · rw [tables]
    exact stmt.later t.toTables
  · rw [tables]
    exact Stmt.apart still kept

/-- A safe write after which the call answers. -/
theorem meets_answer (filed : Filed s.toTables) {stmt : Stmt} (safe : stmt.Safe tenantId s.toTables)
    (answer : Rows → Answer) :
    Meets act fault (contract tenantId) (.write stmt (fun rows => .ret (answer rows)) .throw) last
      s :=
  meets_write filed safe fun _ _ _ _ _ _ _ => trivial

/-- What follows a read goes on from what it saw, whatever came between. -/
theorem meets_read (filed : Filed s.toTables) {next : Db → Client}
    (goesOn : ∀ t, Filed t.toTables → Meets act fault (contract tenantId) (next t) last t) :
    Meets act fault (contract tenantId) (.read next) last s :=
  ⟨fun t others => goesOn t (others filed).1, fun _ _ => trivial⟩

/-- A folder that is found or made is one of the company's own. -/
theorem meets_createFolder (filed : Filed s.toTables) {tenant : Nat} (own : some tenant = tenantId)
    (name : String) {next : Folder → Client}
    (goesOn : ∀ row last t, Filed t.toTables → Owns t.toTables tenant row.id →
      Meets act fault (contract tenantId) (next row) last t) :
    Meets act fault (contract tenantId) (createFolderThen tenant name next) last s := by
  unfold createFolderThen
  dsimp only
  split
  · exact trivial
  · rename_i named
    refine meets_read filed fun t still => ?_
    split
    · rename_i existing found
      have there := List.mem_of_find?_eq_some found
      have hit := List.find?_some found
      have mine := (Bool.and_eq_true_iff.mp hit).1
      refine goesOn existing last t still ⟨t.valid.foldersBelow existing there, fun f among same => ?_⟩
      rw [eq_of_key t.valid.folderIds among there same]
      exact beq_iff_eq.mp mine
    · have safe : Stmt.Safe tenantId t.toTables (.insertFolder tenant (jsTrim name)) := ⟨own, named⟩
      refine meets_write still safe fun out before after last was done now => ?_
      obtain ⟨tables, returned⟩ := act_ok done
      split
      · rename_i row rest rows
        refine goesOn row last after now ?_
        have listed : row ∈ after.folders.filter (·.id == before.nextId) := by
          have returns : out.folders = after.folders.filter (·.id == before.nextId) := by
            rw [returned]
            rfl
          rw [← returns, rows]
          exact List.mem_cons_self
        obtain ⟨there, drawn⟩ := List.mem_filter.mp listed
        have new : row.id = before.nextId := beq_iff_eq.mp drawn
        refine ⟨after.valid.foldersBelow row there, fun f among same => ?_⟩
        have inside : f ∈ before.folders ++ [⟨before.nextId, tenant, jsTrim name⟩] := by
          have folders : after.folders =
              before.folders ++ [⟨before.nextId, tenant, jsTrim name⟩] := by
            rw [tables]
            rfl
          rw [← folders]
          exact among
        rcases List.mem_append.mp inside with old | made
        · have below := before.valid.foldersBelow f old
          omega
        · rw [List.mem_singleton.mp made]
      · exact trivial

/-- A folder is assigned only after it was found among the company's own. -/
theorem meets_assignFolder (filed : Filed s.toTables) {tenant : Nat} (own : some tenant = tenantId)
    (customerId : Nat) (folderId : Option Nat) :
    Meets act fault (contract tenantId) (assignFolder customerId folderId tenant) last s := by
  unfold assignFolder
  split
  · rename_i id
    refine meets_read filed fun t still => ?_
    split
    · rename_i found
      obtain ⟨f, there, mine⟩ := List.any_eq_true.mp found
      obtain ⟨same, theirs⟩ := Bool.and_eq_true_iff.mp mine
      have is : f.id = id := beq_iff_eq.mp same
      have owns : Owns t.toTables tenant id := by
        refine ⟨is ▸ t.valid.foldersBelow f there, fun g among same' => ?_⟩
        rw [eq_of_key t.valid.folderIds among there (same'.trans is.symm)]
        exact beq_iff_eq.mp theirs
      have safe : Stmt.Safe tenantId t.toTables (.setFolder customerId tenant (some id)) :=
        ⟨own, fun given is' => Option.some.inj is' ▸ owns⟩
      exact meets_answer still safe _
    · exact trivial
  · have safe : Stmt.Safe tenantId s.toTables (.setFolder customerId tenant none) :=
      ⟨own, fun id given => by cases given⟩
    exact meets_answer filed safe _

/-- A name in a form comes to no folder or to one of the company's own. -/
theorem meets_resolveFolderId (filed : Filed s.toTables) {tenant : Nat}
    (own : some tenant = tenantId) (folderName : Option String) {next : Option Nat → Client}
    (goesOn : ∀ folderId last t, Filed t.toTables → (∀ id ∈ folderId, Owns t.toTables tenant id) →
      Meets act fault (contract tenantId) (next folderId) last t) :
    Meets act fault (contract tenantId) (resolveFolderIdThen folderName tenant next) last s := by
  unfold resolveFolderIdThen
  dsimp only
  split
  · exact goesOn none last s filed fun id given => by cases given
  · refine meets_createFolder filed own _ fun row last t still owns => ?_
    refine goesOn (some row.id) last t still fun id given => ?_
    rw [← Option.some.inj given]
    exact owns

/-- Every call keeps to the contract of its company. -/
theorem meets_call (call : Call) (filed : Filed s.toTables) :
    Meets act fault (contract call.tenantId) call.client last s := by
  have answer {tenant : Option Nat} (stmt : Stmt) (t : Db) (answers : Rows → Answer)
      (still : Filed t.toTables) (safe : stmt.Safe tenant t.toTables)
      (last : Option (Written Db Stmt)) :
      Meets act fault (contract tenant) (.write stmt (fun rows => .ret (answers rows)) .throw) last
        t :=
    meets_answer still safe answers
  have noFolder {tenant : Nat} : ∀ id ∈ (none : Option Nat), Owns s.toTables tenant id :=
    fun id given => by cases given
  cases call with
  | createFolder tenant name =>
    exact meets_createFolder filed rfl name fun _ _ _ _ _ => trivial
  | renameFolder id name tenant =>
    dsimp only [Call.client, Folders.renameFolder]
    split
    · exact trivial
    · rename_i named
      refine meets_read filed fun t still => ?_
      split
      · exact trivial
      · exact answer (.renameFolder id tenant (jsTrim name)) t _ still ⟨rfl, named⟩ last
  | deleteFolder id tenant => exact answer (.deleteFolder id tenant) s _ filed rfl last
  | assignFolder customerId folderId tenant =>
    exact meets_assignFolder filed rfl customerId folderId
  | moveToFolder remoteId folderId tenant =>
    refine meets_read filed fun t still => ?_
    split
    · exact meets_assignFolder still rfl _ folderId
    · exact trivial
  | createCustomer folderName fields tenant userId now =>
    dsimp only [Call.client, Folders.createCustomer]
    refine meets_resolveFolderId filed rfl folderName fun folderId last t still owns => ?_
    have safe : Stmt.Safe (some tenant) t.toTables
        (.insertCustomer ({ fields with folderId := some folderId }.row tenant userId now)) :=
      ⟨rfl, owns⟩
    exact answer _ t _ still safe last
  | updateCustomer id folderName fields tenant now =>
    dsimp only [Call.client, Folders.updateCustomer]
    refine meets_resolveFolderId filed rfl folderName fun folderId last t still owns => ?_
    have safe : Stmt.Safe (some tenant) t.toTables
        (.updateCustomer id tenant { fields with folderId := some folderId } now) :=
      ⟨rfl, fun given is => owns given (Option.some.inj is)⟩
    exact answer _ t _ still safe last
  | postCustomer fields tenant userId now =>
    have safe : Stmt.Safe (some tenant) s.toTables
        (.insertCustomer ({ fields with folderId := none }.row tenant userId now)) :=
      ⟨rfl, noFolder⟩
    exact answer _ s _ filed safe last
  | patchCustomer id fields tenant now =>
    have safe : Stmt.Safe (some tenant) s.toTables
        (.updateCustomer id tenant { fields with folderId := none } now) :=
      ⟨rfl, fun given is => by cases is⟩
    exact answer _ s _ filed safe last
  | importPeer input tenant userId now =>
    have safe : Stmt.Safe (some tenant) s.toTables (.insertCustomer (input.row tenant userId now)) :=
      ⟨rfl, noFolder⟩
    exact answer _ s _ filed safe last
  | deleteCustomer id tenant => exact answer (.deleteCustomer id tenant) s _ filed rfl last
  | createTenant => exact answer .insertTenant s _ filed trivial last
  | deleteTenantCascade id =>
    exact meets_read filed fun t still => answer (.deleteTenant id) t _ still rfl last

end Contracts

/-- The folder that is shown for a customer is listed for its company. -/
theorem Filed.shown {t : Tables} (filed : Filed t) {c : Customer} (there : c ∈ t.customers)
    {name : String} (shown : folderName t c = some name) :
    ∃ f ∈ listFolders t c.tenantId, f.name = name := by
  obtain ⟨f, found, rfl⟩ := Option.map_eq_some_iff.mp shown
  have among := List.mem_of_find?_eq_some found
  have hit := List.find?_some found
  have inside : c.folderId = some f.id := beq_iff_eq.mp hit
  refine ⟨f, List.mem_filter.mpr ⟨among, ?_⟩, rfl⟩
  exact beq_iff_eq.mpr (filed.own c there f among inside)

/-- In every run of any number of clients, whatever their calls, however their statements interleave
and whichever of them fail: folders have names, the folder that is shown for a customer is one that
is listed for its company, and a statement of a call for a company changes no folder and no customer
of another. -/
theorem folders_apart (ι : Type) [DecidableEq ι] :
    (Crowd.crowd act Call.client fun db => Filed db.toTables :
      Machine (Crowd ι Call Db Stmt Rows FolderError Answer) _).Always
      (Crowd.Faulty fun _ => True) fun s e t =>
        (∀ f ∈ t.store.folders, f.name ≠ "") ∧
        (∀ c ∈ t.store.customers, ∀ name ∈ folderName t.store.toTables c,
          ∃ f ∈ listFolders t.store.toTables c.tenantId, f.name = name) ∧
        ∀ i fault call p, e = .turn i fault → s.running i = some (call, p) →
          Apart call.tenantId s.store.toTables t.store.toTables := by
  have held : (Crowd.crowd act Call.client fun db => Filed db.toTables :
      Machine (Crowd ι Call Db Stmt Rows FolderError Answer) _).Always
      (Crowd.Faulty fun _ => True) _ :=
    Crowd.contracts_hold (fun db : Db => Filed db.toTables) (fun _ => id)
      (fun call s filed => meets_call call filed)
      (fun call entry filed allowed => (allowed filed).1)
      (fun call other entry allowed filed => ⟨(allowed filed).1, (allowed filed).2.1⟩)
  intro s e t reached admitted next
  obtain ⟨filed, after, within⟩ := held s e t reached admitted next
  refine ⟨after.named, fun c there name shown => after.shown there shown,
    fun i error call p is running => ?_⟩
  subst is
  rcases within call p running with same | ⟨stmt, allowed⟩
  · rw [same]
    exact ⟨fun _ _ => rfl, fun _ _ => rfl⟩
  · exact (allowed filed).2.2

end ChainRemote.Panel.Folders
