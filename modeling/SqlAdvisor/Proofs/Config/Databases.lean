import SqlAdvisor.Config.Settings
import SqlAdvisor.Proofs.Database.Asking
import SqlAdvisor.Proofs.Steps

/-! # Databases in a configuration

The entries for a database are complete if they name it and its user and tell a vendor that can be asked for an
EXPLAIN. What is missing in them is told in a message. Of entries that are no entries, or a URL that is no text, the
user is told nothing.
-/

namespace SqlAdvisor

namespace Datum

theorem hasMember_table (fields : List (String × Datum)) (name : String) :
    (Datum.table fields).hasMember name = .ok (fields.lookup name).isSome := by
  rw [hasMember]
  congr 1
  induction fields with
  | nil => rfl
  | cons entry rest ih =>
      rw [List.any_cons, ih, List.lookup_cons]
      by_cases same : name = entry.1
      · simp [same]
      · simp [Ne.symm same, beq_eq_false_iff_ne.mpr same]

theorem hasMember_eq_error {described : Datum} {name : String} {fault : Fault}
    (fails : described.hasMember name = .error fault) (other : String) :
    fault = .wrongType ∧ described.hasMember other = .error .wrongType := by
  cases described <;> cases fails <;> exact ⟨rfl, rfl⟩

end Datum

namespace Dialect

/-- The vendors whose databases can be asked for an EXPLAIN. -/
def vendors : List String := ["postgres", "postgresql", "mysql", "mariadb"]

theorem ofVendor?_isSome {vendor : String} : (∃ dialect, ofVendor? vendor = some dialect) ↔ vendor ∈ vendors := by
  fun_cases ofVendor? vendor <;> simp_all [vendors]

theorem defaultPort?_ofVendor? {vendor : String} {dialect : Dialect} (known : ofVendor? vendor = some dialect) :
    ∃ port, dialect.defaultPort? = some port := by
  have asked := ofVendor?_isSome.mp ⟨dialect, known⟩
  simp only [vendors, List.mem_cons, List.not_mem_nil, or_false] at asked
  rcases asked with rfl | rfl | rfl | rfl <;> cases known <;> exact ⟨_, rfl⟩

theorem lower_of_mem_vendors {vendor : String} (mem : vendor ∈ vendors) : Text.lower vendor = vendor := by
  have lowered : vendors.all (fun vendor => decide (Text.lower vendor = vendor)) = true := by with_unfolding_all rfl
  exact of_decide_eq_true (List.all_eq_true.mp lowered vendor mem)

end Dialect

namespace Settings

variable {fields : List (String × Datum)} {vendor : String} {described : Datum} {fault : Fault}

/-- The vendor that the entries for a database tell: the one that they name, in lower case, or else that of the URL, or
    else the default. -/
inductive TellsVendor (fields : List (String × Datum)) : String → Prop where
  | named {value : Datum} (given : fields.lookup "vendor" = some value) : TellsVendor fields (Text.lower value.display)
  | ofUrl {url : String} {dialect : Dialect} (unnamed : fields.lookup "vendor" = none)
    (given : fields.lookup "url" = some (.text url)) (nonempty : url ≠ "") (known : Dialect.ofUrl? url = some dialect) :
    TellsVendor fields dialect.name
  | byDefault (unnamed : fields.lookup "vendor" = none)
    (bare : ∀ url, fields.lookup "url" = some url → url.truthy = false) : TellsVendor fields "postgres"

/-- The entries for a database are all there, and those that decide about its vendor tell one that can be asked. -/
structure IsComplete (fields : List (String × Datum)) : Prop where
  dbname : (fields.lookup "dbname").isSome = true
  user : (fields.lookup "user").isSome = true
  vendor : ∃ vendor ∈ Dialect.vendors, TellsVendor fields vendor

/-- What describes a database, but not by entries that can be read. The fault is not told in a message. -/
inductive Misdescribes : Datum → Fault → Prop where
  | unsearchable {described : Datum} (bare : described.hasMember "dbname" = .error .wrongType) :
    Misdescribes described .wrongType
  | unreadable {described : Datum} (untabled : ∀ fields, described ≠ .table fields)
    (dbname : described.hasMember "dbname" = .ok true) (user : described.hasMember "user" = .ok true) {named : Bool}
    (vendor : described.hasMember "vendor" = .ok named) :
    Misdescribes described (if named then .wrongType else .lacksMember)
  | oddUrl {fields : List (String × Datum)} {url : Datum} (dbname : (fields.lookup "dbname").isSome = true)
    (user : (fields.lookup "user").isSome = true) (unnamed : fields.lookup "vendor" = none)
    (given : fields.lookup "url" = some url) (counts : url.truthy = true) (odd : ∀ text, url ≠ .text text) :
    Misdescribes (.table fields) .lacksMember

/-! ## Vendors -/

theorem vendorOf_named {value : Datum} (given : fields.lookup "vendor" = some value) :
    vendorOf (.table fields) = .ok (Text.lower value.display) := by
  simp [vendorOf, Datum.hasMember_table, given, bind, Except.bind, pure, Except.pure]

theorem vendorOf_unnamed (unnamed : fields.lookup "vendor" = none) :
    vendorOf (.table fields) =
      if ((fields.lookup "url").getD .null).truthy then vendorOfUrl ((fields.lookup "url").getD .null)
      else .ok "postgres" := by
  simp [vendorOf, Datum.hasMember_table, unnamed, bind, Except.bind, pure, Except.pure]

theorem vendorOfUrl_known {url : String} {dialect : Dialect} (known : Dialect.ofUrl? url = some dialect) :
    vendorOfUrl (.text url) = .ok dialect.name := by
  delta vendorOfUrl
  dsimp only
  rw [known]

theorem vendorOfUrl_unknown {url : String} (unknown : Dialect.ofUrl? url = none) :
    vendorOfUrl (.text url) = .error (.invalid (Dialect.unknownUrl url)) := by
  delta vendorOfUrl
  dsimp only
  rw [unknown]

theorem vendorOfUrl_odd {given : Datum} (odd : ∀ url, given ≠ .text url) : vendorOfUrl given = .error .lacksMember := by
  cases given with
  | text url => exact absurd rfl (odd url)
  | _ => rfl

theorem truthy_text {value : String} : (Datum.text value).truthy = true ↔ value ≠ "" := by
  simp [Datum.truthy]

theorem vendorOf_eq_ok : vendorOf (.table fields) = .ok vendor ↔ TellsVendor fields vendor := by
  constructor
  · intro tells
    cases named : fields.lookup "vendor" with
    | some value =>
        rw [vendorOf_named named] at tells
        cases tells
        exact .named named
    | none =>
        rw [vendorOf_unnamed named] at tells
        split at tells
        · rename_i counts
          cases given : fields.lookup "url" with
          | none => simp [given, Datum.truthy] at counts
          | some url =>
              rw [given, Option.getD_some] at tells counts
              cases url with
              | text url =>
                  cases known : Dialect.ofUrl? url with
                  | none => exact nomatch tells.symm.trans (vendorOfUrl_unknown known)
                  | some dialect =>
                      cases tells.symm.trans (vendorOfUrl_known known)
                      exact .ofUrl named given (truthy_text.mp counts) known
              | _ => cases tells
        · rename_i empty
          cases tells
          refine .byDefault named fun url given => ?_
          simpa [given] using empty
  · rintro (given | ⟨unnamed, given, nonempty, known⟩ | ⟨unnamed, bare⟩)
    · exact vendorOf_named given
    · rw [vendorOf_unnamed unnamed, given, Option.getD_some, if_pos (truthy_text.mpr nonempty), vendorOfUrl_known known]
    · have empty : ((fields.lookup "url").getD .null).truthy = false := by
        cases given : fields.lookup "url" with
        | none => rfl
        | some url => exact bare url given
      rw [vendorOf_unnamed unnamed, empty]
      rfl

/-- A vendor cannot be told where the URL decides and has no dialect, or is no text. -/
theorem vendorOf_eq_error : vendorOf (.table fields) = .error fault ↔
    fields.lookup "vendor" = none ∧ ∃ url, fields.lookup "url" = some url ∧ url.truthy = true ∧
      ((∃ written, url = .text written ∧ Dialect.ofUrl? written = none ∧
          fault = .invalid (Dialect.unknownUrl written)) ∨
        (∀ written, url ≠ .text written) ∧ fault = .lacksMember) := by
  cases named : fields.lookup "vendor" with
  | some value => simp [vendorOf_named named]
  | none =>
      rw [vendorOf_unnamed named]
      cases given : fields.lookup "url" with
      | none => simp [Datum.truthy]
      | some url =>
          cases counts : url.truthy with
          | false => simp [counts]
          | true =>
              cases url with
              | text written =>
                  cases known : Dialect.ofUrl? written with
                  | none => simpa [counts, vendorOfUrl_unknown known, known] using eq_comm
                  | some dialect => simp [counts, vendorOfUrl_known known, known]
              | _ => simpa [counts, vendorOfUrl_odd] using eq_comm

theorem vendorOf_untabled (untabled : ∀ fields, described ≠ .table fields) {named : Bool}
    (vendor : described.hasMember "vendor" = .ok named) :
    vendorOf described = .error (if named then .wrongType else .lacksMember) := by
  cases described with
  | table fields => exact absurd rfl (untabled fields)
  | _ => cases named <;> simp [vendorOf, vendor, bind, Except.bind, throw, throwThe, MonadExceptOf.throw]

/-! ## Databases -/

/-- The configuration of a database of a vendor. What is not given has its default. -/
def configOf (fields : List (String × Datum)) (vendor : String) (dialect : Dialect) : DatabaseConfig where
  host := entry fields "host" (.text "localhost")
  port := entry fields "port" ((dialect.defaultPort?.map Datum.int).getD .null)
  dbname := entry fields "dbname" .null
  user := entry fields "user" .null
  password := entry fields "password" (.text "")
  vendor := .text vendor

theorem databaseOf_eq (described : Datum) : databaseOf described =
    described.hasMember "dbname" >>= fun named =>
      if named then
        described.hasMember "user" >>= fun used =>
          if used then
            vendorOf described >>= fun vendor =>
              match Dialect.ofVendor? vendor, described with
              | none, _ => .error (.invalid ("Unsupported database vendor: " ++ vendor))
              | some dialect, .table fields => .ok (configOf fields vendor dialect)
              | some _, _ => .error .lacksMember
          else .error (.invalid "Missing required field in database config: user")
      else .error (.invalid "Missing required field in database config: dbname") := by
  rw [databaseOf]
  simp only [List.forIn_cons, List.forIn_nil, bind, Except.bind, pure, Except.pure]
  cases described.hasMember "dbname" with
  | error fault => rfl
  | ok named =>
      cases named with
      | false => rfl
      | true =>
          cases described.hasMember "user" with
          | error fault => rfl
          | ok used => cases used <;> rfl

theorem databaseOf_eq_ok {config : DatabaseConfig} : databaseOf described = .ok config ↔
    ∃ fields, described = .table fields ∧ (fields.lookup "dbname").isSome = true ∧
      (fields.lookup "user").isSome = true ∧ ∃ vendor dialect, TellsVendor fields vendor ∧
        Dialect.ofVendor? vendor = some dialect ∧ config = configOf fields vendor dialect := by
  rw [databaseOf_eq]
  constructor
  · intro told
    obtain ⟨named, dbname, told⟩ := Except.bind_eq_ok.mp told
    cases named with
    | false => cases told
    | true =>
        obtain ⟨used, user, told⟩ := Except.bind_eq_ok.mp told
        cases used with
        | false => cases told
        | true =>
            obtain ⟨vendor, tells, told⟩ := Except.bind_eq_ok.mp told
            cases known : Dialect.ofVendor? vendor with
            | none =>
                simp only [known] at told
                cases told
            | some dialect =>
                cases described with
                | table fields =>
                    simp only [known, Except.ok.injEq] at told
                    rw [Datum.hasMember_table, Except.ok.injEq] at dbname user
                    exact ⟨fields, rfl, dbname, user, vendor, dialect, vendorOf_eq_ok.mp tells, known, told.symm⟩
                | _ =>
                    simp only [known] at told
                    cases told
  · rintro ⟨fields, rfl, dbname, user, vendor, dialect, tells, known, rfl⟩
    simp [Datum.hasMember_table, dbname, user, vendorOf_eq_ok.mpr tells, known, bind, Except.bind]

theorem IsComplete.databaseOf_total (complete : IsComplete fields) :
    ∃ config, databaseOf (.table fields) = .ok config := by
  obtain ⟨vendor, mem, tells⟩ := complete.vendor
  obtain ⟨dialect, known⟩ := Dialect.ofVendor?_isSome.mpr mem
  exact ⟨_, databaseOf_eq_ok.mpr ⟨fields, rfl, complete.dbname, complete.user, vendor, dialect, tells, known, rfl⟩⟩

theorem IsComplete.of_databaseOf {config : DatabaseConfig} (told : databaseOf described = .ok config) :
    ∃ fields, described = .table fields ∧ IsComplete fields := by
  obtain ⟨fields, rfl, dbname, user, vendor, dialect, tells, known, -⟩ := databaseOf_eq_ok.mp told
  exact ⟨fields, rfl, dbname, user, vendor, Dialect.ofVendor?_isSome.mp ⟨dialect, known⟩, tells⟩

/-- What describes no database by readable entries fails without a message. -/
theorem Misdescribes.databaseOf_eq (misdescribes : Misdescribes described fault) :
    databaseOf described = .error fault := by
  rw [Settings.databaseOf_eq]
  cases misdescribes with
  | unsearchable bare => rw [bare]; rfl
  | @unreadable _ untabled dbname user named vendor =>
      rw [dbname, user]
      simp only [bind, Except.bind, vendorOf_untabled untabled vendor, if_true]
  | oddUrl dbname user unnamed given counts odd =>
      have noVendor := vendorOf_eq_error.mpr ⟨unnamed, _, given, counts, .inr ⟨odd, rfl⟩⟩
      simp [Datum.hasMember_table, dbname, user, noVendor, bind, Except.bind]

theorem databaseOf_eq_error (fails : databaseOf described = .error fault) :
    (∃ message, fault = .invalid message) ∨ Misdescribes described fault := by
  rw [databaseOf_eq] at fails
  rcases Except.bind_eq_error.mp fails with bare | ⟨named, dbname, fails⟩
  · obtain ⟨rfl, bare⟩ := Datum.hasMember_eq_error bare "dbname"
    exact .inr (.unsearchable bare)
  cases named with
  | false => exact .inl ⟨_, (Except.error.inj fails).symm⟩
  | true =>
      rcases Except.bind_eq_error.mp fails with bare | ⟨used, user, fails⟩
      · exact nomatch dbname.symm.trans (Datum.hasMember_eq_error bare "dbname").2
      cases used with
      | false => exact .inl ⟨_, (Except.error.inj fails).symm⟩
      | true =>
          rw [if_pos rfl] at fails
          by_cases tabled : ∃ fields, described = .table fields
          · obtain ⟨fields, rfl⟩ := tabled
            rw [Datum.hasMember_table, Except.ok.injEq] at dbname user
            rcases Except.bind_eq_error.mp fails with noVendor | ⟨vendor, -, fails⟩
            · obtain ⟨unnamed, url, given, counts, ⟨written, -, -, rfl⟩ | ⟨odd, rfl⟩⟩ := vendorOf_eq_error.mp noVendor
              · exact .inl ⟨_, rfl⟩
              · exact .inr (.oddUrl dbname user unnamed given counts odd)
            · cases known : Dialect.ofVendor? vendor with
              | none =>
                  simp only [known, Except.error.injEq] at fails
                  exact .inl ⟨_, fails.symm⟩
              | some dialect =>
                  simp only [known] at fails
                  cases fails
          · push Not at tabled
            cases vendor : described.hasMember "vendor" with
            | error fault => exact nomatch dbname.symm.trans (Datum.hasMember_eq_error vendor "dbname").2
            | ok named =>
                rw [vendorOf_untabled tabled vendor] at fails
                cases fails
                exact .inr (.unreadable tabled dbname user vendor)

end Settings

end SqlAdvisor
