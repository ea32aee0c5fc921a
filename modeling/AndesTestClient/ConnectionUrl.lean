import AndesTestClient.GlobalDefaults
import AndesTestClient.Library.Decimal
import AndesTestClient.Library.Separated

namespace AndesTestClient

open Separated

namespace PubSubConfig

structure Filled (c : PubSubConfig) : Prop where
  username : isBlank c.username = false
  password : isBlank c.password = false
  clientID : isBlank c.clientID = false
  virtualHostName : isBlank c.virtualHostName = false
  hostname : isBlank c.hostname = false
  failoverParams : isEmpty c.failoverParams = true

structure SameEndpoint (c c' : PubSubConfig) : Prop where
  username_eq : c.username = c'.username
  password_eq : c.password = c'.password
  clientID_eq : c.clientID = c'.clientID
  virtualHostName_eq : c.virtualHostName = c'.virtualHostName
  hostname_eq : c.hostname = c'.hostname
  port_eq : c.port = c'.port

/-- The delimiter between two fields is also found inside one of them, with text beyond it that could
be the field alone. -/
def Straddled (delimiter : String) (left right : Option String) : Prop :=
  (∃ a x, left = some (a ++ delimiter ++ x) ∧ isBlank (some a) = false) ∨
  (∃ x b, right = some (x ++ delimiter ++ b) ∧ isBlank (some b) = false)

def Ambiguous (c : PubSubConfig) : Prop :=
  Straddled ":" c.username c.password ∨ Straddled "@" c.password c.clientID ∨
  Straddled "/" c.clientID c.virtualHostName ∨
  Straddled "?brokerlist='tcp://" c.virtualHostName c.hostname

def NonBlank (l : List Char) : Prop := l.all isWhitespace = false

theorem nonBlank_extend (x a y : List Char) (h : NonBlank a) : NonBlank (x ++ a ++ y) := by
  rw [NonBlank, List.all_append, List.all_append, h, Bool.and_false, Bool.false_and]

def chars (s : Option String) : List Char := (concatenated s).toList

theorem nonBlank_chars {s : Option String} (h : isBlank s = false) : NonBlank (chars s) := by
  cases s with
  | none => exact absurd h (by decide)
  | some s => exact h

theorem isBlank_ofList (l : List Char) : isBlank (some (.ofList l)) = l.all isWhitespace := by
  rw [isBlank, Option.getD_some, String.toList_ofList]

theorem eq_some_iff {s : Option String} (h : isBlank s = false) (t : String) :
    s = some t ↔ chars s = t.toList := by
  cases s with
  | none => exact absurd h (by decide)
  | some s => rw [Option.some.injEq, ← String.toList_inj]; rfl

theorem chars_inj {s t : Option String} (hs : isBlank s = false) (ht : isBlank t = false)
    (h : chars s = chars t) : s = t := by
  cases t with
  | none => exact absurd ht (by decide)
  | some t => exact (eq_some_iff hs t).mpr h

theorem straddled_iff {left right : Option String} (hl : isBlank left = false)
    (hr : isBlank right = false) (delimiter : String) :
    Straddled delimiter left right ↔
      (∃ a x, NonBlank a ∧ chars left = a ++ delimiter.toList ++ x) ∨
      (∃ x b, NonBlank b ∧ chars right = x ++ delimiter.toList ++ b) := by
  constructor
  · intro h
    rcases h with ⟨a, x, h, ha⟩ | ⟨x, b, h, hb⟩
    · refine .inl ⟨a.toList, x.toList, ha, ?_⟩
      rw [(eq_some_iff hl _).mp h, String.toList_append, String.toList_append]
    · refine .inr ⟨x.toList, b.toList, hb, ?_⟩
      rw [(eq_some_iff hr _).mp h, String.toList_append, String.toList_append]
  · intro h
    rcases h with ⟨a, x, ha, h⟩ | ⟨x, b, hb, h⟩
    · refine .inl ⟨.ofList a, .ofList x, ?_, (isBlank_ofList a).trans ha⟩
      rw [eq_some_iff hl, h, String.toList_append, String.toList_append, String.toList_ofList,
        String.toList_ofList]
    · refine .inr ⟨.ofList x, .ofList b, ?_, (isBlank_ofList b).trans hb⟩
      rw [eq_some_iff hr, h, String.toList_append, String.toList_append, String.toList_ofList,
        String.toList_ofList]

def urlFields (c : PubSubConfig) : List (List Char × List Char) :=
  [(":".toList, chars c.password), ("@".toList, chars c.clientID),
    ("/".toList, chars c.virtualHostName), ("?brokerlist='tcp://".toList, chars c.hostname)]

theorem getTCPConnectionURL_toList {c : PubSubConfig} (h : isEmpty c.failoverParams = true) :
    c.getTCPConnectionURL.toList = "amqp://".toList ++ (join (chars c.username) c.urlFields ++
      ':' :: (integerToString c.port).toList ++ "'".toList) := by
  simp [getTCPConnectionURL, h, join, urlFields, chars]

variable {c c' : PubSubConfig}

theorem ambiguous_iff (hc : c.Filled) :
    c.Ambiguous ↔ AbsorbsSeparator NonBlank (chars c.username) c.urlFields := by
  simp only [Ambiguous, straddled_iff, hc.username, hc.password, hc.clientID, hc.virtualHostName,
    hc.hostname, urlFields, AbsorbsSeparator, or_false, or_assoc]

theorem urlFields_solid : ∀ e ∈ c.urlFields, Solid e.1 := by
  simp only [urlFields, List.forall_mem_cons]
  refine ⟨⟨':', [], rfl, ?_⟩, ⟨'@', [], rfl, ?_⟩, ⟨'/', [], rfl, ?_⟩,
    ⟨'?', "brokerlist='tcp://".toList, rfl, ?_⟩, by simp⟩ <;> decide

theorem urlFields_nonBlank (hc : c.Filled) : ∀ e ∈ c.urlFields, NonBlank e.2 := by
  simp only [urlFields, List.forall_mem_cons]
  exact ⟨nonBlank_chars hc.password, nonBlank_chars hc.clientID, nonBlank_chars hc.virtualHostName,
    nonBlank_chars hc.hostname, by simp⟩

/-- The port is what follows the last colon. -/
theorem getTCPConnectionURL_eq_iff (hc : c.Filled) (hc' : c'.Filled) :
    c'.getTCPConnectionURL = c.getTCPConnectionURL ↔
      join (chars c'.username) c'.urlFields = join (chars c.username) c.urlFields ∧
      c'.port = c.port := by
  rw [← String.toList_inj, getTCPConnectionURL_toList hc.failoverParams,
    getTCPConnectionURL_toList hc'.failoverParams, List.append_cancel_left_eq,
    List.append_cancel_right_eq]
  constructor
  · intro h
    have hcolon (i : Int32) : ':' ∉ (integerToString i).toList :=
      Decimal.notMem (by decide) (by decide) i.toInt
    obtain ⟨hjoin, hport⟩ := Delimited.append_last_inj (hcolon _) (hcolon _) h
    exact ⟨hjoin, Int32.toInt_inj.mp (Decimal.int_inj (String.toList_inj.mp hport))⟩
  · intro h
    rw [h.1, h.2]

theorem sameEndpoint_of_fields (hc : c.Filled) (hc' : c'.Filled) (hport : c'.port = c.port)
    (husername : chars c'.username = chars c.username) (hfields : c'.urlFields = c.urlFields) :
    SameEndpoint c' c := by
  simp only [urlFields, List.cons.injEq, Prod.mk.injEq, true_and, and_true] at hfields
  obtain ⟨hpassword, hclientID, hvirtualHostName, hhostname⟩ := hfields
  exact ⟨chars_inj hc'.username hc.username husername, chars_inj hc'.password hc.password hpassword,
    chars_inj hc'.clientID hc.clientID hclientID,
    chars_inj hc'.virtualHostName hc.virtualHostName hvirtualHostName,
    chars_inj hc'.hostname hc.hostname hhostname, hport⟩

theorem exists_filled_of_reading (hc : c.Filled) {f : List Char} {rest : List (List Char × List Char)}
    (hseps : rest.map Prod.fst = c.urlFields.map Prod.fst) (hf : NonBlank f)
    (hrest : ∀ e ∈ rest, NonBlank e.2) :
    ∃ c' : PubSubConfig, c'.Filled ∧ c'.port = c.port ∧ chars c'.username = f ∧
      c'.urlFields = rest := by
  simp only [urlFields, List.map_cons, List.map_nil, List.map_eq_cons_iff, List.map_eq_nil_iff] at hseps
  obtain ⟨⟨_, password⟩, _, rfl, rfl, ⟨_, clientID⟩, _, rfl, rfl, ⟨_, virtualHostName⟩, _, rfl, rfl,
    ⟨_, hostname⟩, _, rfl, rfl, rfl⟩ := hseps
  simp only [List.forall_mem_cons] at hrest
  obtain ⟨hpassword, hclientID, hvirtualHostName, hhostname, -⟩ := hrest
  refine ⟨{ c with
    username := some (.ofList f)
    password := some (.ofList password)
    clientID := some (.ofList clientID)
    virtualHostName := some (.ofList virtualHostName)
    hostname := some (.ofList hostname) }, ?_, rfl, String.toList_ofList, ?_⟩
  · exact ⟨(isBlank_ofList _).trans hf, (isBlank_ofList _).trans hpassword,
      (isBlank_ofList _).trans hclientID, (isBlank_ofList _).trans hvirtualHostName,
      (isBlank_ofList _).trans hhostname, hc.failoverParams⟩
  · simp only [urlFields, chars, concatenated, Option.getD_some, String.toList_ofList]

/-- The port of a connection URL can always be read back, and the other five fields exactly when no
delimiter between two of them is also found inside one of the two with a non-blank text beyond it. -/
theorem getTCPConnectionURL_reads_back_iff (hc : c.Filled) :
    (∀ c' : PubSubConfig, c'.Filled → c'.getTCPConnectionURL = c.getTCPConnectionURL →
      c'.port = c.port) ∧
    ((∀ c' : PubSubConfig, c'.Filled → c'.getTCPConnectionURL = c.getTCPConnectionURL →
      SameEndpoint c' c) ↔ ¬ c.Ambiguous) := by
  refine ⟨fun c' hc' h ↦ ((getTCPConnectionURL_eq_iff hc hc').mp h).2, ?_⟩
  rw [ambiguous_iff hc, ← reads_back_iff nonBlank_extend urlFields_solid (nonBlank_chars hc.username)
    (urlFields_nonBlank hc)]
  constructor
  · intro hsame f rest hseps hf hrest hjoin
    obtain ⟨c', hc', hport, rfl, rfl⟩ := exists_filled_of_reading hc hseps hf hrest
    have h := hsame c' hc' ((getTCPConnectionURL_eq_iff hc hc').mpr ⟨hjoin, hport⟩)
    simp only [urlFields, h.username_eq, h.password_eq, h.clientID_eq, h.virtualHostName_eq,
      h.hostname_eq, and_self]
  · intro hreads c' hc' h
    obtain ⟨hjoin, hport⟩ := (getTCPConnectionURL_eq_iff hc hc').mp h
    obtain ⟨husername, hfields⟩ := hreads (chars c'.username) c'.urlFields rfl
      (nonBlank_chars hc'.username) (urlFields_nonBlank hc') hjoin
    exact sameEndpoint_of_fields hc hc' hport husername hfields

theorem getTCPConnectionURL_reads_back_local :
    let c : PubSubConfig :=
      { port := 5672, hostname := some "localhost", username := some "admin", password := some "admin",
        clientID := some "carbon", virtualHostName := some "carbon" }
    (∀ c' : PubSubConfig, c'.Filled → c'.getTCPConnectionURL = c.getTCPConnectionURL →
      c'.port = 5672) ∧
    ((∀ c' : PubSubConfig, c'.Filled → c'.getTCPConnectionURL = c.getTCPConnectionURL →
      SameEndpoint c' c) ↔ ¬ c.Ambiguous) := by
  intro c
  exact getTCPConnectionURL_reads_back_iff (c := c) (by constructor <;> decide)

/-- A colon in the username and one in the password: one URL, two different credentials. -/
theorem getTCPConnectionURL_ambiguous :
    let c : PubSubConfig :=
      { port := 5672, hostname := some "localhost", username := some "a:b", password := some "c",
        clientID := some "carbon", virtualHostName := some "carbon" }
    let c' : PubSubConfig := { c with username := some "a", password := some "b:c" }
    c.Filled ∧ c'.Filled ∧ c.getTCPConnectionURL = c'.getTCPConnectionURL ∧
      c.username ≠ c'.username ∧ c.password ≠ c'.password := by
  intro c c'
  refine ⟨by constructor <;> decide, by constructor <;> decide, by decide, by decide, by decide⟩

end PubSubConfig

end AndesTestClient
