import Mathlib.Data.List.Infix
import Mathlib.Logic.Function.Basic
import Mathlib.Data.String.Basic
import Mathlib.Data.Nat.Digits

/-!
# Cloudflare DNS records: `CreateDNSRecord` and `DeleteDNSRecord`

`internal/tools/cloudflare/dns.go`, one definition a Go function, over an `Account`: what the
client's calls of `cloudflare-go` read and change. The library is not among the sources; its
four calls (`ZoneIDByName`, `DNSRecords`, `CreateDNSRecord`, `DeleteDNSRecord`) are modelled from
its interface, and which of them fail, for which zone, is part of the account, so a theorem over
every `Account` is a theorem over every behaviour of the DNS provider.

Both loops run over the zone names in order and leave it at the first zone name that does not
resolve (`break`, lines 69 and 105, under a log line that says "skipping..."); the deletion also
leaves it, with a `nil` error, at the first zone whose record lookup finds nothing (line 117), and
deletes only the first record the lookup lists (`getRecordId`, line 58).

* `createDNSRecord_creates_until_unresolved` — a creation keeps every record there was, touches no
  zone past the first zone name that does not resolve, and when it returns `nil` every zone before
  that one holds a proxied CNAME record from the name to the endpoint with automatic TTL.
* `deleteDNSRecord_stops_at_empty_zone` — whatever zones come after it, a zone name that does not
  resolve, or whose zone holds no record of the name, ends the deletion with what the zones before
  it left.
* `dns_loops_stop_early` — the inputs on which the loops leave zones undone while returning `nil`:
  a zone name that does not resolve before a zone that does, a zone without the record before a
  zone with it, and a zone holding the name twice.
* `deleteDNSRecord_createDNSRecord` — **the round trip**: a deletion over the zone names of a
  creation that returned `nil` returns `nil` and gives every zone back the records it held, when
  the zones reached held no record of the name and none under an ID still to be assigned, and
  answer their lookups and deletions. Two lemmas carry it: a creation keeps the records there
  were at the front of each zone (`createDNSRecord_frame`), and deleting an ID the creation does
  not assign commutes with it (`createDNSRecord_deleteRecord`); the IDs the account assigns are
  distinct because decimal numerals are (`toString_injective`).
* `deleteDNSRecord_keeps_other_names` — in zones whose record IDs are distinct, a deletion keeps
  every record of another name and adds none.
-/

namespace MattermostCloud.Cloudflare

/-- A DNS record, with the fields of `cf.DNSRecord` the client sets or reads. -/
structure DNSRecord where
  id : String
  name : String
  type : String
  content : String
  ttl : Nat
  proxied : Bool
  deriving DecidableEq, Repr

/-- The failure of a Cloudflare API call, by the call and the zone it was made in. -/
inductive DNSError where
  | dnsRecords (zoneId : String)
  | createDNSRecord (zoneId : String)
  | deleteDNSRecord (zoneId : String)
  deriving DecidableEq, Repr

/-- Modelled from the interface of `cloudflare-go`: the account the client's token opens.
`zoneIdByName` answers `ZoneIDByName` (`none` when the call fails, for a zone that does not exist
or any other reason); `records` holds the records of each zone ID in the order `DNSRecords` lists
them; the three `…Fails` fields say in which zones each call fails; `nextId` numbers the records
the account creates. -/
structure Account where
  zoneIdByName : String → Option String
  records : String → List DNSRecord
  dnsRecordsFails : String → Bool := fun _ => false
  createDNSRecordFails : String → Bool := fun _ => false
  deleteDNSRecordFails : String → Bool := fun _ => false
  nextId : Nat := 1

namespace Account

variable (cf : Account)

/-- `DNSRecords` filtered by name: the zone's records of that name, in the account's order. -/
def dnsRecords (zoneId name : String) : Except DNSError (List DNSRecord) :=
  if cf.dnsRecordsFails zoneId then .error (.dnsRecords zoneId)
  else .ok ((cf.records zoneId).filter (·.name = name))

/-- `CreateDNSRecord`: append the record to the zone, under the account's next ID. -/
def createRecord (zoneId : String) (rr : DNSRecord) : Except DNSError Account :=
  if cf.createDNSRecordFails zoneId then .error (.createDNSRecord zoneId)
  else .ok { cf with
    records := Function.update cf.records zoneId
      (cf.records zoneId ++ [{ rr with id := toString cf.nextId }])
    nextId := cf.nextId + 1 }

/-- `DeleteDNSRecord`: remove the zone's record with that ID. -/
def deleteRecord (zoneId recordId : String) : Except DNSError Account :=
  if cf.deleteDNSRecordFails zoneId then .error (.deleteDNSRecord zoneId)
  else .ok { cf with
    records := Function.update cf.records zoneId ((cf.records zoneId).filter (·.id ≠ recordId)) }

/-- A successful `CreateDNSRecord` keeps the zone names' resolution and appends the record under
the account's next ID. -/
theorem createRecord_eq_ok {cf cf' : Account} {zoneId : String} {rr : DNSRecord}
    (h : cf.createRecord zoneId rr = .ok cf') :
    cf'.zoneIdByName = cf.zoneIdByName ∧
    cf'.records = Function.update cf.records zoneId
      (cf.records zoneId ++ [{ rr with id := toString cf.nextId }]) := by
  unfold createRecord at h
  split_ifs at h
  cases h
  exact ⟨rfl, rfl⟩

/-- A successful `DeleteDNSRecord` keeps the zone names' resolution and the failing lookups. -/
theorem deleteRecord_eq_ok {cf cf' : Account} {zoneId recordId : String}
    (h : cf.deleteRecord zoneId recordId = .ok cf') :
    cf'.zoneIdByName = cf.zoneIdByName ∧ cf'.dnsRecordsFails = cf.dnsRecordsFails := by
  unfold deleteRecord at h
  split_ifs at h
  cases h
  exact ⟨rfl, rfl⟩

/-- A successful `CreateDNSRecord` appends the record under the account's next ID, and changes
nothing else. -/
theorem createRecord_eq_ok_iff {cf cf' : Account} {zoneId : String} {rr : DNSRecord} :
    cf.createRecord zoneId rr = .ok cf' ↔ cf.createDNSRecordFails zoneId = false ∧
      cf' = { cf with
        records := Function.update cf.records zoneId
          (cf.records zoneId ++ [{ rr with id := toString cf.nextId }])
        nextId := cf.nextId + 1 } := by
  unfold createRecord
  split_ifs with h <;> simp [h, eq_comm]

/-- A successful `DeleteDNSRecord` removes the zone's records with the ID, and changes nothing
else. -/
theorem deleteRecord_eq_ok_iff {cf cf' : Account} {zoneId recordId : String} :
    cf.deleteRecord zoneId recordId = .ok cf' ↔ cf.deleteDNSRecordFails zoneId = false ∧
      cf' = { cf with
        records := Function.update cf.records zoneId
          ((cf.records zoneId).filter (·.id ≠ recordId)) } := by
  unfold deleteRecord
  split_ifs with h <;> simp [h, eq_comm]

end Account

/-! ### The IDs the account assigns are distinct -/

/-- The number a list of decimal digit characters spells. -/
def decimalValue (ds : List Char) : Nat := ds.foldl (fun a c => 10 * a + (c.toNat - 48)) 0

/-- With enough fuel, `Nat.toDigitsCore` puts before its accumulator a nonempty list of digits
that spells the number. -/
theorem toDigitsCore_ten (fuel n : Nat) (h : n < fuel) (acc : List Char) :
    ∃ ds, ds ≠ [] ∧ Nat.toDigitsCore 10 fuel n acc = ds ++ acc ∧ decimalValue ds = n := by
  have hd : ∀ d < 10, (Nat.digitChar d).toNat - 48 = d := by decide
  induction fuel generalizing n acc with
  | zero => omega
  | succ fuel ih =>
    simp only [Nat.toDigitsCore]
    split_ifs with hn
    · refine ⟨[Nat.digitChar (n % 10)], by simp, rfl, ?_⟩
      simp [decimalValue, hd _ (Nat.mod_lt n (by omega))]
      omega
    · obtain ⟨ds, -, hds, hval⟩ := ih (n / 10) (by omega) (Nat.digitChar (n % 10) :: acc)
      refine ⟨ds ++ [Nat.digitChar (n % 10)], by simp, by simp [hds], ?_⟩
      simp only [decimalValue, List.foldl_append] at hval ⊢
      simp [hval, hd _ (Nat.mod_lt n (by omega))]
      omega

/-- Decimal numerals name numbers once: the account never assigns one ID twice. -/
theorem toString_injective : Function.Injective (fun n : Nat => toString n) := by
  intro n m h
  obtain ⟨ds, -, hn, rfl⟩ := toDigitsCore_ten (n + 1) n (by omega) []
  obtain ⟨es, -, hm, rfl⟩ := toDigitsCore_ten (m + 1) m (by omega) []
  simp only [toString, Nat.repr, Nat.toDigits, hn, hm, List.append_nil] at h
  rw [List.asString_inj.mp h]

/-- No ID the account assigns is the empty string `getRecordId` answers when it finds nothing. -/
theorem toString_ne_empty (n : Nat) : toString n ≠ "" := by
  obtain ⟨ds, hne, hn, -⟩ := toDigitsCore_ten (n + 1) n (by omega) []
  simp only [toString, Nat.repr, Nat.toDigits, hn, List.append_nil]
  intro h
  exact hne (List.asString_inj.mp (h.trans (by rfl)))

section client

variable (cf : Account)

/-- The ID of a zone name, `none` when `ZoneIDByName` fails.
Source: `dns.go` lines 35-42. -/
def getZoneId (zoneName : String) : Option String :=
  cf.zoneIdByName zoneName

/-- The ID of the first record of the name in the zone, `""` when there is none.
Source: `dns.go` lines 44-60. -/
def getRecordId (zoneId customerDnsName : String) : Except DNSError String :=
  match cf.dnsRecords zoneId customerDnsName with
  | .error e => .error e
  | .ok [] => .ok ""
  | .ok (r :: _) => .ok r.id

/-- The record `CreateDNSRecord` asks for: a proxied CNAME with automatic TTL (`1`). -/
def cnameRecord (customerDnsName dnsEndpoint : String) : DNSRecord :=
  ⟨"", customerDnsName, "CNAME", dnsEndpoint, 1, true⟩

/-- Create the CNAME record in each zone of the list, leaving the loop at the first zone name
that does not resolve and returning at the first failed creation.
Source: `dns.go` lines 62-96. -/
def createDNSRecord (cf : Account) (customerDnsName dnsEndpoint : String) :
    List String → Account × Except DNSError Unit
  | [] => (cf, .ok ())
  | zoneName :: zoneNameList =>
    match getZoneId cf zoneName with
    | none => (cf, .ok ())
    | some zoneId =>
      match cf.createRecord zoneId (cnameRecord customerDnsName dnsEndpoint) with
      | .error e => (cf, .error e)
      | .ok cf' => createDNSRecord cf' customerDnsName dnsEndpoint zoneNameList

/-- Delete the first record of the name from each zone of the list, leaving the loop at the first
zone name that does not resolve, returning `nil` at the first zone without the record, and
returning at the first failed call.
Source: `dns.go` lines 98-130. -/
def deleteDNSRecord (cf : Account) (customerDnsName : String) :
    List String → Account × Except DNSError Unit
  | [] => (cf, .ok ())
  | zoneName :: zoneNameList =>
    match getZoneId cf zoneName with
    | none => (cf, .ok ())
    | some zoneId =>
      match getRecordId cf zoneId customerDnsName with
      | .error e => (cf, .error e)
      | .ok recordId =>
        if recordId = "" then (cf, .ok ())
        else
          match cf.deleteRecord zoneId recordId with
          | .error e => (cf, .error e)
          | .ok cf' => deleteDNSRecord cf' customerDnsName zoneNameList

end client

/-! ## What the loops do -/

/-- The zone names the creation's loop reaches: those before the first that does not
resolve. -/
def resolvedPrefix (cf : Account) (zoneNameList : List String) : List String :=
  zoneNameList.takeWhile fun zoneName => (getZoneId cf zoneName).isSome

/-- **What a creation does.** It keeps every record there was; it leaves alone every zone that no
zone name before the first unresolved one names; and when it returns `nil`, every zone before the
first unresolved zone name holds a proxied CNAME record from `customerDnsName` to `dnsEndpoint`
with automatic TTL. -/
theorem createDNSRecord_creates_until_unresolved (cf : Account)
    (customerDnsName dnsEndpoint : String) (zoneNameList : List String) :
    (∀ zoneId, cf.records zoneId <+:
      (createDNSRecord cf customerDnsName dnsEndpoint zoneNameList).1.records zoneId) ∧
    (∀ zoneId, (∀ zoneName ∈ resolvedPrefix cf zoneNameList, getZoneId cf zoneName ≠ some zoneId) →
      (createDNSRecord cf customerDnsName dnsEndpoint zoneNameList).1.records zoneId =
        cf.records zoneId) ∧
    ((createDNSRecord cf customerDnsName dnsEndpoint zoneNameList).2 = .ok () →
      ∀ zoneName ∈ resolvedPrefix cf zoneNameList, ∃ zoneId, getZoneId cf zoneName = some zoneId ∧
        ∃ r ∈ (createDNSRecord cf customerDnsName dnsEndpoint zoneNameList).1.records zoneId,
          { r with id := "" } = cnameRecord customerDnsName dnsEndpoint) := by
  induction zoneNameList generalizing cf with
  | nil => exact ⟨fun _ => List.prefix_refl _, fun _ _ => rfl, by simp [resolvedPrefix]⟩
  | cons zoneName zoneNameList ih =>
    rcases hz : getZoneId cf zoneName with _ | zoneId
    · simp [createDNSRecord, resolvedPrefix, hz]
    rcases hc : cf.createRecord zoneId (cnameRecord customerDnsName dnsEndpoint) with e | cf'
    · simp [createDNSRecord, hz, hc]
    obtain ⟨hzones, hrecords⟩ := Account.createRecord_eq_ok hc
    have hrun : createDNSRecord cf customerDnsName dnsEndpoint (zoneName :: zoneNameList) =
        createDNSRecord cf' customerDnsName dnsEndpoint zoneNameList := by
      simp [createDNSRecord, hz, hc]
    have hget : getZoneId cf' = getZoneId cf := funext fun _ => by simp [getZoneId, hzones]
    have hprefix : resolvedPrefix cf (zoneName :: zoneNameList) =
        zoneName :: resolvedPrefix cf' zoneNameList := by
      simp [resolvedPrefix, List.takeWhile_cons, hz, hget]
    obtain ⟨ih₁, ih₂, ih₃⟩ := ih cf'
    rw [hrun, hprefix]
    refine ⟨fun zoneId' => ?_, fun zoneId' h => ?_, fun hok => ?_⟩
    · -- the creation appends to one zone
      refine List.IsPrefix.trans ?_ (ih₁ zoneId')
      rw [hrecords]
      by_cases h : zoneId' = zoneId
      · subst h; simp
      · simp [h]
    · -- a zone no reached zone name names keeps its records
      have hne : zoneId' ≠ zoneId := fun h' => h zoneName (by simp) (hz.trans (congrArg _ h'.symm))
      rw [ih₂ zoneId' fun z hz' => hget ▸ h z (List.mem_cons_of_mem _ hz'), hrecords,
        Function.update_noteq hne]
    · -- every reached zone holds the record
      rintro z (_ | ⟨_, hz'⟩)
      · refine ⟨zoneId, hz, { cnameRecord customerDnsName dnsEndpoint with id := toString cf.nextId },
          (ih₁ zoneId).subset ?_, rfl⟩
        simp [hrecords]
      · simpa [hget] using ih₃ hok z hz'

/-- **Where the deletion ends.** A zone name that does not resolve, or whose zone's lookup
succeeds and finds no record of the name, ends the deletion with what the zone names before it
left, whatever zone names follow. -/
theorem deleteDNSRecord_stops_at_empty_zone (cf : Account) (customerDnsName zoneName : String)
    (zoneNameList rest : List String)
    (h : ∀ zoneId, getZoneId cf zoneName = some zoneId → cf.dnsRecordsFails zoneId = false ∧
      ∀ r ∈ (deleteDNSRecord cf customerDnsName zoneNameList).1.records zoneId,
        r.name ≠ customerDnsName) :
    deleteDNSRecord cf customerDnsName (zoneNameList ++ zoneName :: rest) =
      deleteDNSRecord cf customerDnsName zoneNameList := by
  induction zoneNameList generalizing cf with
  | nil =>
    rcases hz : getZoneId cf zoneName with _ | zoneId
    · simp [deleteDNSRecord, hz]
    obtain ⟨hok, hnone⟩ := h zoneId hz
    have hfilter : (cf.records zoneId).filter (fun r => decide (r.name = customerDnsName)) = [] :=
      List.filter_eq_nil_iff.mpr fun r hr => by simpa using hnone r hr
    have hempty : getRecordId cf zoneId customerDnsName = .ok "" := by
      simp [getRecordId, Account.dnsRecords, hok, hfilter]
    simp [deleteDNSRecord, hz, hempty]
  | cons z zoneNameList ih =>
    rcases hz : getZoneId cf z with _ | zoneId
    · simp [deleteDNSRecord, hz]
    rcases hr : getRecordId cf zoneId customerDnsName with e | recordId
    · simp [deleteDNSRecord, hz, hr]
    by_cases he : recordId = ""
    · simp [deleteDNSRecord, hz, hr, he]
    rcases hd : cf.deleteRecord zoneId recordId with e | cf'
    · simp [deleteDNSRecord, hz, hr, he, hd]
    have hstep : ∀ l, deleteDNSRecord cf customerDnsName (z :: l) =
        deleteDNSRecord cf' customerDnsName l := by
      intro l
      simp [deleteDNSRecord, hz, hr, he, hd]
    obtain ⟨hzones, hfails⟩ := Account.deleteRecord_eq_ok hd
    rw [List.cons_append, hstep, hstep]
    refine ih cf' fun zoneId' hz' => ?_
    rw [hfails, ← hstep]
    exact h zoneId' (by simpa [getZoneId, hzones] using hz')

/-! ## The inputs on which the loops stop early -/

/-- A record of `app.example.com` as Cloudflare lists it: its ID, its type and its content. -/
def appRecord (id type content : String) : DNSRecord :=
  ⟨id, "app.example.com", type, content, 1, true⟩

/-- An account whose zone names `example.com` and `example.org` resolve to the zones `z1` and
`z2`, holding `records₁` and `records₂`; no other zone name resolves, and no call fails. -/
def exampleAccount (records₁ records₂ : List DNSRecord) : Account where
  zoneIdByName zoneName :=
    if zoneName = "example.com" then some "z1"
    else if zoneName = "example.org" then some "z2" else none
  records zoneId := if zoneId = "z1" then records₁ else if zoneId = "z2" then records₂ else []

/-- A record of `www.example.com`, another name, under the ID `"0"`, which the account does not
assign. -/
def wwwRecord : DNSRecord := ⟨"0", "www.example.com", "CNAME", "lb.example.net", 1, true⟩

/-- `z1` holds two records of `app.example.com`, `z2` only a record of another name. -/
def twoRecordAccount : Account :=
  exampleAccount [appRecord "r1" "A" "192.0.2.1", appRecord "r2" "A" "192.0.2.2"] [wwwRecord]

/-- The deletion removes a record from `z1` for `example.com`; then `example.org`, whose zone
holds no record of the name, ends it, and the second record of `z1` stays. -/
theorem deleteDNSRecord_stops_at_empty_zone_example :
    (∀ zoneId, getZoneId twoRecordAccount "example.org" = some zoneId →
      twoRecordAccount.dnsRecordsFails zoneId = false ∧
      ∀ r ∈ (deleteDNSRecord twoRecordAccount "app.example.com" ["example.com"]).1.records zoneId,
        r.name ≠ "app.example.com") ∧
    deleteDNSRecord twoRecordAccount "app.example.com"
        (["example.com"] ++ "example.org" :: ["example.com"]) =
      deleteDNSRecord twoRecordAccount "app.example.com" ["example.com"] := by
  have h : ∀ zoneId, getZoneId twoRecordAccount "example.org" = some zoneId →
      twoRecordAccount.dnsRecordsFails zoneId = false ∧
      ∀ r ∈ (deleteDNSRecord twoRecordAccount "app.example.com" ["example.com"]).1.records zoneId,
        r.name ≠ "app.example.com" := by
    intro zoneId hz
    simp only [getZoneId, twoRecordAccount, exampleAccount] at hz
    cases hz
    exact ⟨rfl, by decide⟩
  exact ⟨h, deleteDNSRecord_stops_at_empty_zone _ _ _ _ _ h⟩

/-- **The loops leave zones undone and return `nil`.** A zone name that does not resolve, before
`example.com`: the creation creates nothing in `z1`, and the deletion leaves the record there. A
zone without the record before `example.com`: the deletion leaves the record in `z1`. Every call
returns `nil`. With two records of the name in `z1` the deletion removes the first only, as
`getRecordId` is designed to (it answers the first record listed, line 58, and its test expects
that one ID): one record of the name a zone, documented behaviour rather than a stopped loop. -/
theorem dns_loops_stop_early :
    createDNSRecord (exampleAccount [] []) "app.example.com" "lb.example.net"
        ["example.net", "example.com"] = (exampleAccount [] [], .ok ()) ∧
    (deleteDNSRecord (exampleAccount [appRecord "r1" "CNAME" "lb.example.net"] [])
        "app.example.com" ["example.net", "example.com"]).2 = .ok () ∧
    (deleteDNSRecord (exampleAccount [appRecord "r1" "CNAME" "lb.example.net"] [])
        "app.example.com" ["example.net", "example.com"]).1.records "z1" =
      [appRecord "r1" "CNAME" "lb.example.net"] ∧
    (deleteDNSRecord (exampleAccount [appRecord "r1" "CNAME" "lb.example.net"] [])
        "app.example.com" ["example.org", "example.com"]).2 = .ok () ∧
    (deleteDNSRecord (exampleAccount [appRecord "r1" "CNAME" "lb.example.net"] [])
        "app.example.com" ["example.org", "example.com"]).1.records "z1" =
      [appRecord "r1" "CNAME" "lb.example.net"] ∧
    (deleteDNSRecord (exampleAccount [appRecord "r1" "A" "192.0.2.1", appRecord "r2" "A" "192.0.2.2"] [])
        "app.example.com" ["example.com"]).2 = .ok () ∧
    (deleteDNSRecord (exampleAccount [appRecord "r1" "A" "192.0.2.1", appRecord "r2" "A" "192.0.2.2"] [])
        "app.example.com" ["example.com"]).1.records "z1" = [appRecord "r2" "A" "192.0.2.2"] := by
  refine ⟨rfl, rfl, ?_, rfl, ?_, rfl, ?_⟩ <;> decide

/-! ## The round trip -/

/-- A creation changes no zone name's resolution and no failing call, and keeps the records there
were at the front of each zone. -/
theorem createDNSRecord_frame (cf : Account) (customerDnsName dnsEndpoint : String)
    (zoneNameList : List String) :
    (createDNSRecord cf customerDnsName dnsEndpoint zoneNameList).1.zoneIdByName =
      cf.zoneIdByName ∧
    (createDNSRecord cf customerDnsName dnsEndpoint zoneNameList).1.dnsRecordsFails =
      cf.dnsRecordsFails ∧
    (createDNSRecord cf customerDnsName dnsEndpoint zoneNameList).1.deleteDNSRecordFails =
      cf.deleteDNSRecordFails ∧
    ∀ zoneId, cf.records zoneId <+:
      (createDNSRecord cf customerDnsName dnsEndpoint zoneNameList).1.records zoneId := by
  induction zoneNameList generalizing cf with
  | nil => exact ⟨rfl, rfl, rfl, fun _ => List.prefix_refl _⟩
  | cons zoneName zoneNameList ih =>
    rcases hz : getZoneId cf zoneName with _ | zoneId
    · simp [createDNSRecord, hz]
    rcases hc : cf.createRecord zoneId (cnameRecord customerDnsName dnsEndpoint) with e | cf'
    · simp [createDNSRecord, hz, hc]
    obtain ⟨h₁, h₂, h₃, h₄⟩ := ih cf'
    simp only [createDNSRecord, hz, hc]
    obtain ⟨-, rfl⟩ := Account.createRecord_eq_ok_iff.mp hc
    refine ⟨h₁, h₂, h₃, fun zoneId' => List.IsPrefix.trans ?_ (h₄ zoneId')⟩
    by_cases h : zoneId' = zoneId
    · subst h; simp
    · simp [h]

/-- **A deletion commutes with a creation** that assigns no ID it deletes: deleting the records
with an ID after the creation leaves what the creation leaves after they were deleted first, and
the creation answers the same. -/
theorem createDNSRecord_deleteRecord {cf cfD : Account} {zoneId recordId : String}
    (hd : cf.deleteRecord zoneId recordId = .ok cfD)
    (hfresh : ∀ n, cf.nextId ≤ n → toString n ≠ recordId)
    (customerDnsName dnsEndpoint : String) (zoneNameList : List String) :
    (createDNSRecord cf customerDnsName dnsEndpoint zoneNameList).1.deleteRecord zoneId recordId =
      .ok (createDNSRecord cfD customerDnsName dnsEndpoint zoneNameList).1 ∧
    (createDNSRecord cfD customerDnsName dnsEndpoint zoneNameList).2 =
      (createDNSRecord cf customerDnsName dnsEndpoint zoneNameList).2 := by
  induction zoneNameList generalizing cf cfD with
  | nil => exact ⟨hd, rfl⟩
  | cons zoneName zoneNameList ih =>
    obtain ⟨hfail, rfl⟩ := Account.deleteRecord_eq_ok_iff.mp hd
    rcases hz : cf.zoneIdByName zoneName with _ | zoneId'
    · simp [createDNSRecord, getZoneId, hz, hd]
    cases hc : cf.createDNSRecordFails zoneId'
    case true => simp [createDNSRecord, getZoneId, hz, Account.createRecord, hc, hd]
    simp only [createDNSRecord, getZoneId, hz, Account.createRecord, hc, Bool.false_eq_true,
      if_false]
    refine ih (Account.deleteRecord_eq_ok_iff.mpr ⟨hfail, ?_⟩) fun n hn =>
      hfresh n (Nat.le_of_succ_le hn)
    -- the record created gets an ID the deletion does not name
    have hne : toString cf.nextId ≠ recordId := hfresh _ le_rfl
    congr 1
    funext z
    by_cases h : z = zoneId <;> by_cases h' : z = zoneId'
    · subst h h'; simp [hne]
    · subst h; simp [h']
    · subst h'; simp [h]
    · simp [h, h']

/-- **The round trip.** Deleting the name over the zone names of a creation that returned `nil`
returns `nil` and takes every zone back to the records it held before the creation, when each
zone the creation reached answers its record lookup and its deletion and held no record of the
name and no record under an ID the account has yet to assign. -/
theorem deleteDNSRecord_createDNSRecord (cf : Account) (customerDnsName dnsEndpoint : String)
    (zoneNameList : List String)
    (hcreate : (createDNSRecord cf customerDnsName dnsEndpoint zoneNameList).2 = .ok ())
    (hzones : ∀ zoneName ∈ resolvedPrefix cf zoneNameList, ∀ zoneId,
      getZoneId cf zoneName = some zoneId →
      cf.dnsRecordsFails zoneId = false ∧ cf.deleteDNSRecordFails zoneId = false ∧
      ∀ r ∈ cf.records zoneId, r.name ≠ customerDnsName ∧ ∀ n, cf.nextId ≤ n → r.id ≠ toString n) :
    deleteDNSRecord (createDNSRecord cf customerDnsName dnsEndpoint zoneNameList).1
        customerDnsName zoneNameList =
      ({ (createDNSRecord cf customerDnsName dnsEndpoint zoneNameList).1 with
          records := cf.records }, .ok ()) := by
  induction zoneNameList generalizing cf with
  | nil => rfl
  | cons zoneName zoneNameList ih =>
    rcases hz : cf.zoneIdByName zoneName with _ | zoneId
    · simp [createDNSRecord, deleteDNSRecord, getZoneId, hz]
    obtain ⟨hlook, hdel, hold⟩ :=
      hzones zoneName (by simp [resolvedPrefix, getZoneId, hz]) zoneId hz
    cases hc : cf.createDNSRecordFails zoneId
    case true => simp [createDNSRecord, getZoneId, hz, Account.createRecord, hc] at hcreate
    -- the creation in the first zone appends `r₀`, under the ID `toString cf.nextId`
    set r₀ : DNSRecord := { cnameRecord customerDnsName dnsEndpoint with id := toString cf.nextId }
      with hr₀
    set cf₁ : Account := { cf with
      records := Function.update cf.records zoneId (cf.records zoneId ++ [r₀])
      nextId := cf.nextId + 1 } with hcf₁
    have hrun : ∀ l, createDNSRecord cf customerDnsName dnsEndpoint (zoneName :: l) =
        createDNSRecord cf₁ customerDnsName dnsEndpoint l := fun l => by
      simp [createDNSRecord, getZoneId, hz, Account.createRecord, hc, hcf₁, hr₀]
    rw [hrun] at hcreate ⊢
    -- deleting `r₀` first gives `cf` back, with the ID used up
    set cf₂ : Account := { cf with nextId := cf.nextId + 1 } with hcf₂
    have hd₁ : cf₁.deleteRecord zoneId (toString cf.nextId) = .ok cf₂ := by
      have hkeep : (cf.records zoneId).filter (fun r => !decide (r.id = toString cf.nextId)) =
          cf.records zoneId :=
        List.filter_eq_self.mpr fun r hr => by simpa using (hold r hr).2 _ le_rfl
      refine Account.deleteRecord_eq_ok_iff.mpr ⟨hdel, ?_⟩
      simp [hcf₁, hcf₂, hr₀, hkeep]
    obtain ⟨hcomm, hsame⟩ := createDNSRecord_deleteRecord hd₁
      (fun n hn h => Nat.ne_of_gt hn (toString_injective h)) customerDnsName dnsEndpoint
      zoneNameList
    -- after the creation, `r₀` is the first record of the name in the zone
    obtain ⟨hC₁, hC₂, -, hC₄⟩ := createDNSRecord_frame cf₁ customerDnsName dnsEndpoint zoneNameList
    obtain ⟨S, hS⟩ := hC₄ zoneId
    have hnone : (cf.records zoneId).filter (fun r => decide (r.name = customerDnsName)) = [] :=
      List.filter_eq_nil_iff.mpr fun r hr => by simpa using (hold r hr).1
    have hid : getRecordId (createDNSRecord cf₁ customerDnsName dnsEndpoint zoneNameList).1 zoneId
        customerDnsName = .ok (toString cf.nextId) := by
      simp only [getRecordId, Account.dnsRecords, hC₂, ← hS]
      simp [hcf₁, hlook, hnone, hr₀, cnameRecord]
    have hstep : deleteDNSRecord (createDNSRecord cf₁ customerDnsName dnsEndpoint zoneNameList).1
        customerDnsName (zoneName :: zoneNameList) =
        deleteDNSRecord (createDNSRecord cf₂ customerDnsName dnsEndpoint zoneNameList).1
          customerDnsName zoneNameList := by
      simp [deleteDNSRecord, getZoneId, hC₁, hz, hid, toString_ne_empty, hcomm]
    -- the zones after the first are as they were, with one ID used up
    have hzones₂ : ∀ z ∈ resolvedPrefix cf₂ zoneNameList, ∀ zoneId',
        getZoneId cf₂ z = some zoneId' →
        cf₂.dnsRecordsFails zoneId' = false ∧ cf₂.deleteDNSRecordFails zoneId' = false ∧
        ∀ r ∈ cf₂.records zoneId', r.name ≠ customerDnsName ∧
          ∀ n, cf₂.nextId ≤ n → r.id ≠ toString n := by
      intro z hz' zoneId' h
      obtain ⟨h₁, h₂, h₃⟩ := hzones z (by
        simp only [resolvedPrefix, List.takeWhile_cons, getZoneId, hz] at hz' ⊢
        simp [hz']) zoneId' h
      exact ⟨h₁, h₂, fun r hr => ⟨(h₃ r hr).1, fun n hn => (h₃ r hr).2 n (Nat.le_of_succ_le hn)⟩⟩
    obtain ⟨-, hC'⟩ := Account.deleteRecord_eq_ok_iff.mp hcomm
    rw [hstep, ih cf₂ (hsame.trans hcreate) hzones₂, hC']

/-- `app.example.com` created in the zones of `example.com` and `example.org`, then deleted from
them: `z1` holds its record of `www.example.com` again, and `z2` is empty again. -/
theorem deleteDNSRecord_createDNSRecord_example :
    (createDNSRecord (exampleAccount [wwwRecord] []) "app.example.com" "lb.example.net"
      ["example.com", "example.org"]).2 = .ok () ∧
    (∀ zoneName ∈ resolvedPrefix (exampleAccount [wwwRecord] []) ["example.com", "example.org"],
      ∀ zoneId, getZoneId (exampleAccount [wwwRecord] []) zoneName = some zoneId →
      (exampleAccount [wwwRecord] []).dnsRecordsFails zoneId = false ∧
      (exampleAccount [wwwRecord] []).deleteDNSRecordFails zoneId = false ∧
      ∀ r ∈ (exampleAccount [wwwRecord] []).records zoneId, r.name ≠ "app.example.com" ∧
        ∀ n, (exampleAccount [wwwRecord] []).nextId ≤ n → r.id ≠ toString n) ∧
    (deleteDNSRecord (createDNSRecord (exampleAccount [wwwRecord] []) "app.example.com"
        "lb.example.net" ["example.com", "example.org"]).1 "app.example.com"
        ["example.com", "example.org"]).1.records =
      (exampleAccount [wwwRecord] []).records := by
  have hcreate : (createDNSRecord (exampleAccount [wwwRecord] []) "app.example.com"
      "lb.example.net" ["example.com", "example.org"]).2 = .ok () := rfl
  -- `z1`'s record has the ID `"0"`, and the account assigns IDs from `1` on
  have hfresh : ∀ n, (exampleAccount [wwwRecord] []).nextId ≤ n → wwwRecord.id ≠ toString n :=
    fun n hn h => by
      have h0 : toString 0 = toString n := h
      exact Nat.one_ne_zero (Nat.le_zero.mp (toString_injective h0 ▸ hn))
  have hzones : ∀ zoneName ∈ resolvedPrefix (exampleAccount [wwwRecord] [])
      ["example.com", "example.org"], ∀ zoneId,
      getZoneId (exampleAccount [wwwRecord] []) zoneName = some zoneId →
      (exampleAccount [wwwRecord] []).dnsRecordsFails zoneId = false ∧
      (exampleAccount [wwwRecord] []).deleteDNSRecordFails zoneId = false ∧
      ∀ r ∈ (exampleAccount [wwwRecord] []).records zoneId, r.name ≠ "app.example.com" ∧
        ∀ n, (exampleAccount [wwwRecord] []).nextId ≤ n → r.id ≠ toString n := by
    intro _ _ zoneId _
    refine ⟨rfl, rfl, fun r hr => ?_⟩
    by_cases h₁ : zoneId = "z1"
    · simp only [exampleAccount, h₁, if_true, List.mem_singleton] at hr
      subst hr
      exact ⟨by decide, hfresh⟩
    · by_cases h₂ : zoneId = "z2" <;> simp [exampleAccount, h₁, h₂] at hr
  exact ⟨hcreate, hzones, congrArg (·.1.records)
    (deleteDNSRecord_createDNSRecord _ _ _ _ hcreate hzones)⟩

/-! ## What the deletion never removes -/

/-- The ID `getRecordId` answers is `""`, or the ID of a record of the name in the zone. -/
theorem getRecordId_eq_ok {cf : Account} {zoneId customerDnsName recordId : String}
    (h : getRecordId cf zoneId customerDnsName = .ok recordId) :
    recordId = "" ∨ ∃ r ∈ cf.records zoneId, r.name = customerDnsName ∧ r.id = recordId := by
  unfold getRecordId Account.dnsRecords at h
  cases hf : cf.dnsRecordsFails zoneId <;> simp only [hf, if_true, Bool.false_eq_true,
    if_false] at h
  · rcases hl : (cf.records zoneId).filter (fun r => decide (r.name = customerDnsName))
      with _ | ⟨r, rs⟩ <;> rw [hl] at h
    · exact .inl (Except.ok.inj h).symm
    · obtain ⟨hmem, hname⟩ := List.mem_filter.mp (hl ▸ List.mem_cons_self r rs)
      exact .inr ⟨r, hmem, by simpa using hname, Except.ok.inj h⟩
  · cases h

/-- **A deletion removes only records of the name.** In zones whose record IDs are distinct,
`DeleteDNSRecord` keeps every record of another name and adds none: what each zone holds after
it is a sublist of what it held, with every record of another name still there. -/
theorem deleteDNSRecord_keeps_other_names (cf : Account) (customerDnsName : String)
    (zoneNameList : List String) (hids : ∀ zoneId, ((cf.records zoneId).map (·.id)).Nodup)
    (zoneId : String) :
    ((deleteDNSRecord cf customerDnsName zoneNameList).1.records zoneId).Sublist
      (cf.records zoneId) ∧
    ∀ r ∈ cf.records zoneId, r.name ≠ customerDnsName →
      r ∈ (deleteDNSRecord cf customerDnsName zoneNameList).1.records zoneId := by
  induction zoneNameList generalizing cf with
  | nil => exact ⟨List.Sublist.refl _, fun _ h _ => h⟩
  | cons zoneName zoneNameList ih =>
    -- the loop ends at this zone, leaving the account as it was
    have hdone : ∀ p : Account × Except DNSError Unit, p.1 = cf →
        (p.1.records zoneId).Sublist (cf.records zoneId) ∧
        ∀ r ∈ cf.records zoneId, r.name ≠ customerDnsName → r ∈ p.1.records zoneId := by
      rintro p rfl
      exact ⟨.refl _, fun _ h _ => h⟩
    rcases hz : getZoneId cf zoneName with _ | z
    · exact hdone _ (by simp [deleteDNSRecord, hz])
    rcases hr : getRecordId cf z customerDnsName with e | recordId
    · exact hdone _ (by simp [deleteDNSRecord, hz, hr])
    by_cases he : recordId = ""
    · exact hdone _ (by simp [deleteDNSRecord, hz, hr, he])
    rcases hd : cf.deleteRecord z recordId with e | cf'
    · exact hdone _ (by simp [deleteDNSRecord, hz, hr, he, hd])
    have hstep : deleteDNSRecord cf customerDnsName (zoneName :: zoneNameList) =
        deleteDNSRecord cf' customerDnsName zoneNameList := by
      simp [deleteDNSRecord, hz, hr, he, hd]
    obtain ⟨-, hcf'⟩ := Account.deleteRecord_eq_ok_iff.mp hd
    -- the call removes records of the zone `z` only, those with the ID of a record of the name
    have hsub : ∀ z', (cf'.records z').Sublist (cf.records z') := by
      intro z'
      rw [hcf']
      by_cases h : z' = z
      · subst h; simp [List.filter_sublist]
      · simp [h]
    have hkeep : ∀ r ∈ cf.records zoneId, r.name ≠ customerDnsName → r ∈ cf'.records zoneId := by
      intro r hr' hn
      rw [hcf']
      by_cases h : zoneId = z
      · subst h
        obtain he' | ⟨r₁, hr₁, hname, hid⟩ := getRecordId_eq_ok hr
        · exact absurd he' he
        -- a record with the ID deleted is the record of the name, as IDs are distinct
        have hne : r.id ≠ recordId := fun hid' =>
          hn (List.inj_on_of_nodup_map (hids _) hr' hr₁ (hid'.trans hid.symm) ▸ hname)
        simpa using ⟨hr', hne⟩
      · simpa [h] using hr'
    obtain ⟨ih₁, ih₂⟩ := ih cf' fun z' => ((hsub z').map _).nodup (hids z')
    rw [hstep]
    exact ⟨ih₁.trans (hsub zoneId), fun r hr' hn => ih₂ r (hkeep r hr' hn) hn⟩

/-- `z1` holds a record of `app.example.com` and one of `www.example.com`: the deletion of
`app.example.com` keeps the other. -/
theorem deleteDNSRecord_keeps_other_names_example :
    (∀ zoneId, (((exampleAccount [appRecord "r1" "CNAME" "lb.example.net",
      ⟨"r2", "www.example.com", "CNAME", "lb.example.net", 1, true⟩] []).records zoneId).map
        (·.id)).Nodup) ∧
    (⟨"r2", "www.example.com", "CNAME", "lb.example.net", 1, true⟩ : DNSRecord) ∈
      (deleteDNSRecord (exampleAccount [appRecord "r1" "CNAME" "lb.example.net",
        ⟨"r2", "www.example.com", "CNAME", "lb.example.net", 1, true⟩] []) "app.example.com"
        ["example.com"]).1.records "z1" := by
  have hids : ∀ zoneId, (((exampleAccount [appRecord "r1" "CNAME" "lb.example.net",
      ⟨"r2", "www.example.com", "CNAME", "lb.example.net", 1, true⟩] []).records zoneId).map
        (·.id)).Nodup := by
    intro zoneId
    simp only [exampleAccount]
    split_ifs <;> decide
  exact ⟨hids, (deleteDNSRecord_keeps_other_names _ "app.example.com" ["example.com"] hids
    "z1").2 _ (by decide) (by decide)⟩

end MattermostCloud.Cloudflare
