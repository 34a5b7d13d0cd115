import VulnOpsHub.Api.Bodies
import VulnOpsHub.Assets.Import
import VulnOpsHub.Lib.UniqueTable

set_option autoImplicit false

/-! # Business services

The table `business_services` (`services/models.py`) and `create_business_service`
(`api/services.py`). A service is known in its organization by its name without padding and case: the
route looks that key up before it adds the service, and a unique constraint refuses the commit of
whoever was overtaken. -/

namespace VulnOpsHub

/-! ## The table -/

/-- A row of `business_services`. -/
@[ext]
structure BusinessService where
  id : String
  organizationId : String
  name : String
  nameNormalized : String
  ownerTeam : String
  criticality : Option String
  createdAt : Instant
  updatedAt : Instant
deriving DecidableEq, Repr

instance : Keyed BusinessService String := ⟨BusinessService.id⟩

/-- `uq_business_service_org_name_normalized`. -/
instance : NaturalKey BusinessService (String × String) := ⟨fun s => (s.organizationId, s.nameNormalized)⟩

/-- The columns of `uq_business_service_org_name`. -/
def BusinessService.orgName (s : BusinessService) : String × String := (s.organizationId, s.name)

structure BusinessServices extends UniqueTable BusinessService where
  names_nodup : (rows.map BusinessService.orgName).Nodup

namespace BusinessServices

/-- The constraints of the table take `s`. -/
def Takes (t : BusinessServices) (s : BusinessService) : Prop :=
  t.toUniqueTable.Fresh s ∧ s.orgName ∉ t.rows.map BusinessService.orgName

instance (t : BusinessServices) (s : BusinessService) : Decidable (t.Takes s) :=
  inferInstanceAs (Decidable (_ ∧ _))

def insert (t : BusinessServices) (s : BusinessService) : Option BusinessServices :=
  if h : t.Takes s then
    some
      { rows := t.rows ++ [s]
        nodup := by
          rw [List.map_append, List.map_singleton]
          exact t.nodup.append (List.nodup_singleton _) (List.disjoint_singleton.2 h.1.1)
        natural_nodup := by
          rw [List.map_append, List.map_singleton]
          exact t.natural_nodup.append (List.nodup_singleton _) (List.disjoint_singleton.2 h.1.2)
        names_nodup := by
          rw [List.map_append, List.map_singleton]
          exact t.names_nodup.append (List.nodup_singleton _) (List.disjoint_singleton.2 h.2) }
  else none

variable {t u : BusinessServices} {s : BusinessService}

@[ext]
theorem ext (h : t.rows = u.rows) : t = u := by
  have htable : t.toUniqueTable = u.toUniqueTable := UniqueTable.ext h
  cases t; cases u; cases htable; rfl

theorem insert_eq_some : t.insert s = some u ↔ t.Takes s ∧ u.rows = t.rows ++ [s] := by
  unfold insert
  split_ifs with h
  · rw [Option.some_inj]
    constructor
    · rintro rfl
      exact ⟨h, rfl⟩
    · rintro ⟨-, hrows⟩
      exact BusinessServices.ext hrows.symm
  · simp [h]

theorem insert_eq_none : t.insert s = none ↔ ¬ t.Takes s := by
  unfold insert
  split_ifs with h <;> simp [h]

theorem insert_toTable (h : t.insert s = some u) : t.toTable.insert s = some u.toTable := by
  obtain ⟨htakes, hrows⟩ := insert_eq_some.1 h
  have hfree : Keyed.key s ∉ t.rows.map Keyed.key := htakes.1.1
  rw [Table.insert, dif_neg hfree]
  exact congrArg some (Table.ext hrows.symm)

end BusinessServices

section Names

variable [Python]

/-- `normalize_business_service_name`. -/
def normalizeBusinessServiceName (name : String) : String := Python.casefold (strip name)

/-- `_sync_business_service_name_normalized`. -/
def BusinessService.sync (s : BusinessService) : BusinessService :=
  { s with nameNormalized := normalizeBusinessServiceName s.name }

@[simp] theorem BusinessService.sync_id (s : BusinessService) : s.sync.id = s.id := rfl

/-- The only writes are INSERTs of services, before which the listener runs. -/
instance : Store BusinessServices BusinessService String where
  apply := fun s t => t.insert s.sync
  overlay := fun s t => (t.insert s.sync).getD t
  touches := fun s => [s.id]
  Same := fun id t u => t.find? id = u.find? id
  same_refl := fun _ _ => rfl
  same_trans := Eq.trans
  apply_same := by
    intro s t u id h hid
    have hne : Keyed.key s.sync ≠ id := fun heq => hid (List.mem_singleton.2 heq.symm)
    rw [Table.find?_insert (BusinessServices.insert_toTable h), if_neg hne]

end Names

/-! ## Requests -/

/-- `BusinessServiceCreateRequest`. -/
structure BusinessServiceCreateRequest where
  name : String
  ownerTeam : String
  criticality : Option String
deriving DecidableEq, Repr

/-- Text with a visible character, without its padding. -/
def strippedText (message : String) (value : Json) : Except FieldIssue String :=
  (nonblankText message value).map strip

namespace BusinessServiceCreateRequest

/-- `validate_criticality`. -/
def checkCriticality : Json → Except FieldIssue (Option String)
  | .null => .ok none
  | value => (strippedText "business service criticality must not be blank" value).map some

/-- A body that is no object has an error without a location, whose field is looked up in vain. -/
def validate : Json → Except BodyFault BusinessServiceCreateRequest
  | .obj members =>
      let blank := "business service text fields must not be blank"
      let name := requiredField members ["name"] (strippedText blank)
      let ownerTeam := requiredField members ["owner_team"] (strippedText blank)
      let criticality := optionalField members ["criticality"] none checkCriticality
      validated
        (bodyProblem "invalid_request_body" (fun _ => "invalid request body")
          (fieldErrors name ++ fieldErrors ownerTeam ++ fieldErrors criticality)
          (extraFields members [["name"], ["owner_team"], ["criticality"]]))
        (do return ⟨← name, ← ownerTeam, ← criticality⟩)
  | _ => .error (.raised .indexError)

end BusinessServiceCreateRequest

/-- A request to create a service: the organization of its path, its body, and what it draws. -/
structure ServiceCall where
  organizationId : String
  body : RequestBody
  env : CallEnv

namespace ServiceCall

/-- `_gen_id`. -/
def serviceId (c : ServiceCall) : String := c.env.rowId "svc_" 12 0

/-- The validated body; the route does not catch what reading it raises. -/
def payload [Python] (c : ServiceCall) : Except BodyFault BusinessServiceCreateRequest :=
  c.body.mapError .raised >>= BusinessServiceCreateRequest.validate

/-- The service that is added. -/
def service (c : ServiceCall) (payload : BusinessServiceCreateRequest) : BusinessService where
  id := c.serviceId
  organizationId := c.organizationId
  name := payload.name
  nameNormalized := ""
  ownerTeam := payload.ownerTeam
  criticality := payload.criticality
  createdAt := c.env.clock 0
  updatedAt := c.env.clock 1

end ServiceCall

/-- `_duplicate_service_error`. -/
def duplicateServiceError : Problem :=
  .document 409 "Business Service Conflict" "business_service_conflict"
    "A business service with this name already exists in the organization." none

section Routes

variable [Python] [Driver]

/-- The database takes the columns of the row. -/
def BusinessService.writable (s : BusinessService) : Bool :=
  storable 64 (some s.id) && storable 64 (some s.organizationId) && storable 256 (some s.name) &&
    storable 256 (some s.nameNormalized) && storable 128 (some s.ownerTeam) &&
    storable 32 s.criticality

/-- A computation of Python, in a route. -/
def routed {α : Type} (x : Except PyError α) : Except BodyFault α := x.mapError .raised

/-- `SELECT id FROM business_services` by organization and key, which no two rows share. -/
def serviceTaken (t : BusinessServices) (organizationId key : String) : Bool :=
  (t.byNatural (organizationId, key)).isSome

/-- `create_business_service`, after the body has been read. -/
def addBusinessService (c : ServiceCall) (payload : BusinessServiceCreateRequest) :
    Program BusinessServices BodyFault BusinessService := do
  let org ← .ofExcept (routed (accepted (Driver.compared (.str c.organizationId))))
  let key ← .ofExcept (routed (accepted
    (Driver.compared (.str (normalizeBusinessServiceName payload.name)))))
  let taken ← .select fun t => serviceTaken t org key
  .ofExcept (if taken then .error (.problem duplicateServiceError) else .ok ())
  let service := c.service payload
  .add [service]
  -- a row the columns do not take is no `IntegrityError`
  .ofExcept (routed (raiseIf (¬ service.sync.writable) .databaseError))
  .commitAll
  -- `db.refresh(service)`
  .lookup (fun t => t.find? service.id) (.raised .invalidRequestError)

/-- `create_business_service`. -/
def createBusinessService (c : ServiceCall) : Program BusinessServices BodyFault BusinessService := do
  let payload ← .ofExcept c.payload
  addBusinessService c payload

end Routes

/-- How a route answers. -/
inductive ServiceReply where
  | created (s : BusinessService)
  | problem (p : Problem)
  | error (e : PyError)
deriving DecidableEq, Repr

/-- `except IntegrityError`: a commit that the constraints refuse is a conflict. -/
def serviceReply : Outcome BodyFault BusinessService → ServiceReply
  | .returned s => .created s
  | .raised (.problem p) => .problem p
  | .raised (.raised e) => .error e
  | .failed => .problem duplicateServiceError

end VulnOpsHub
