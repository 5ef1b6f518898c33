/-
Worlds given by tables.

A concrete run needs crates that compute something and an SDC that answers.  Here
the crates look their answers up: the texts in a table can be read, and the
digests in a table are the digests of their documents.  A text outside the table
gets a digest that is longer than any in it, so that digests stay collision-free.
-/
import SdcMcp.Model.Wire
import SdcMcp.Model.Client
import SdcMcp.Model.Config

namespace SdcMcp

structure Tables where
  documents : List Json
  digests : List (Json × List UInt8)

namespace Tables

def sha256 (tables : Tables) (bytes : List UInt8) : List UInt8 :=
  match tables.digests.find? fun entry => entry.1.toVec = bytes with
  | some entry => entry.2
  | none => List.replicate 33 0 ++ bytes

def readJson (tables : Tables) (bytes : List UInt8) : Option Json :=
  tables.documents.find? fun document => document.toVec = bytes

/-- The crates as the tables have them, on texts that are short and plain. -/
@[reducible] def crates (tables : Tables) : Crates where
  sha256 := tables.sha256
  readJson := tables.readJson
  boundedText := fun text _ => text
  debugStr := fun text => "\"" ++ text ++ "\""
  isHeaderValue := fun _ => true

/-- What a digest in the table was taken of. -/
private theorem sha256_cases (tables : Tables) (bytes : List UInt8) :
    (∃ entry ∈ tables.digests, entry.1.toVec = bytes ∧ tables.sha256 bytes = entry.2) ∨
      tables.sha256 bytes = List.replicate 33 0 ++ bytes := by
  unfold sha256
  cases hfind : tables.digests.find? fun entry => entry.1.toVec = bytes with
  | none => exact Or.inr rfl
  | some entry =>
      have hkey := List.find?_some hfind
      exact Or.inl ⟨entry, List.mem_of_find?_eq_some hfind, by simpa using hkey, rfl⟩

/-- Digests of the usual length that are all different have no collision. -/
theorem sha256_injective {tables : Tables} (hlength : ∀ e ∈ tables.digests, e.2.length = 32)
    (hdistinct : ∀ e ∈ tables.digests, ∀ f ∈ tables.digests, e.2 = f.2 → e = f) :
    Function.Injective tables.sha256 := by
  intro a b hab
  have hlong : ∀ c : List UInt8, (List.replicate 33 (0 : UInt8) ++ c).length ≠ 32 := by
    intro c hc
    rw [List.length_append, List.length_replicate] at hc
    omega
  rcases sha256_cases tables a with ⟨e, he, hea, ha⟩ | ha
  · rcases sha256_cases tables b with ⟨f, hf, hfb, hb⟩ | hb
    · rw [ha, hb] at hab
      rw [← hea, ← hfb, hdistinct e he f hf hab]
    · rw [ha, hb] at hab
      exact absurd (hab ▸ hlength e he) (hlong b)
  · rcases sha256_cases tables b with ⟨f, hf, hfb, hb⟩ | hb
    · rw [ha, hb] at hab
      exact absurd (hab ▸ hlength f hf) (hlong a)
    · rw [ha, hb] at hab
      exact List.append_cancel_left hab

/-- A document in the table is read back from its text. -/
theorem readJson_of_mem {tables : Tables} {document : Json} (h : document ∈ tables.documents) :
    tables.readJson document.toVec = some document := by
  unfold readJson
  cases hfind : tables.documents.find? fun d => d.toVec = document.toVec with
  | none =>
      have hnone := List.find?_eq_none.mp hfind document h
      simp at hnone
  | some found =>
      have hsome := List.find?_some hfind
      rw [Json.toVec_injective (of_decide_eq_true hsome)]

end Tables

/-- An SDC that answers every request at once and by its request only. -/
def Env.answering (answer : Request → Exchange) : Env where
  exchange := fun _ request => ⟨0, answer request⟩
  pause := fun _ => .elapses 0
  jitterNanos := fun _ => 0

/-- A whole body in one chunk. -/
def Exchange.replies (status : Nat) (body : Json) : Exchange :=
  .answered ⟨status, none, none, [body.toVec], .complete⟩

/-- A client that polls every second for a minute. -/
def minuteClient : SdcClient where
  credential := "Bearer token"
  maxResponseBytes := 4194304
  maxPageSize := 100
  poll :=
    { initial := 1000
      maximum := 8000
      deadline := 60000
      initial_pos := by decide
      initial_le := by decide
      maximum_le := by decide }

/-- An HTTP crate that takes what it is given. -/
@[reducible] def plainHttp : HttpCrate where
  proxies := fun _ => true
  builds := fun _ _ _ => true

/-- The one address a configuration may name. -/
def serviceUrl : Url where
  scheme := "https"
  host := some "api.sdcloud.juniperclouds.net"
  port := none
  username := ""
  password := none
  path := "/"
  query := none
  fragment := none

/-- The defaults of `config.rs`, with a page size. -/
def defaultConfig (maxPageSize : UInt32) : SdcConfig where
  version := 1
  tenant := "tenant-a"
  expectedTenantId := "tenant-id-a"
  credentialEnv := "SDC_TOKEN"
  authScheme := .apiKey
  endpoint := "https://api.sdcloud.juniperclouds.net/"
  connectTimeoutMs := 10000
  requestTimeoutMs := 30000
  maxResponseBytes := 8388608
  maxConcurrency := 16
  maxPageSize := maxPageSize
  listPageBudgetBytes := 131072
  pollInitialMs := 250
  pollMaxMs := 3000
  pollDeadlineMs := 120000
  changesetStateFile := none
  approvalTtlSecs := 3600
  egressProxy := none

def defaultClient (maxPageSize : Nat) : SdcClient where
  credential := "token"
  maxResponseBytes := 8388608
  maxPageSize := maxPageSize
  poll := ⟨250, 3000, 120000, by decide, by decide, by decide⟩

end SdcMcp
