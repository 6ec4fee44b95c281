import Mathlib.Control.Monad.Basic
import AccessWindow.Proofs.Wire.Record
import AccessWindow.Proofs.Wire.Trim
import AccessWindow.Settings.Hook
import AccessWindow.Settings.Worker

namespace AccessWindow

namespace Settings

open Environment

variable {env : Environment} {name value : String} {h : HookSettings} {w : WorkerSettings}

namespace Environment

/-- The variable is not set, or to something that has no blanks around it. -/
def Bare (env : Environment) (name : String) : Prop :=
  ∀ s, env name = some s → Text.trim s = s ∧ s ≠ ""

/-- If the variable says yes, it does so by the word that stands for it, with no blanks around
it. -/
def Plain (env : Environment) (name : String) : Prop :=
  ∀ s, env name = some s →
    Text.asciiLower (Text.trim s) ≠ "1" ∧ Text.asciiLower (Text.trim s) ≠ "yes" ∧
      (Text.asciiLower (Text.trim s) = "true" → Text.trim s = s)

theorem textOr_eq_trimmed_iff (filled : Text.trim value ≠ "") :
    textOr env name value = (trimmed? env name).getD value ↔ Bare env name := by
  cases hs : env name with
  | none => simp [textOr, trimmed?, Bare, hs]
  | some s =>
    have bare : Bare env name ↔ Text.trim s = s ∧ s ≠ "" := by simp [Bare, hs]
    have own : textOr env name value = s := by simp [textOr, hs]
    rw [bare, own]
    by_cases blank : Text.trim s = ""
    · have given : trimmed? env name = none := by simp [trimmed?, hs, blank]
      rw [given, Option.getD_none]
      constructor
      · rintro rfl
        exact absurd blank filled
      · rintro ⟨same, full⟩
        exact absurd (same.symm.trans blank) full
    · have given : trimmed? env name = some (Text.trim s) := by simp [trimmed?, hs, blank]
      rw [given, Option.getD_some]
      constructor
      · intro same
        exact ⟨same.symm, same ▸ blank⟩
      · rintro ⟨same, -⟩
        exact same.symm

theorem isTrue_iff {s : String} (hs : env name = some s) :
    isTrue env name ↔ Text.asciiLower (Text.trim s) = "true" ∧ Text.trim s = s := by
  have literal : Text.trim "true" = "true" := by decide +kernel
  have lower : Text.asciiLower "true" = "true" := by decide +kernel
  rw [← Text.asciiLower_eq_iff literal]
  simp [isTrue, hs, Text.eqIgnoreCase, lower]

theorem flagOf?_eq_some {s : String} {b : Bool} (known : flagOf? s = some b) :
    b ↔ Text.asciiLower (Text.trim s) = "true" ∨ Text.asciiLower (Text.trim s) = "1" ∨
      Text.asciiLower (Text.trim s) = "yes" := by
  rw [flagOf?] at known
  split at known
  · next yes =>
    cases known
    exact iff_of_true rfl yes
  · next other =>
    split at known
    · cases known
      exact iff_of_false Bool.false_ne_true other
    · cases known

theorem isTrue_eq_iff {b : Bool} (read : flag env name = .ok b) :
    isTrue env name = b ↔ Plain env name := by
  cases hs : env name with
  | none =>
    rw [flag, hs] at read
    cases read
    simp [isTrue, Plain, hs]
  | some s =>
    have plain : Plain env name ↔ Text.asciiLower (Text.trim s) ≠ "1" ∧
        Text.asciiLower (Text.trim s) ≠ "yes" ∧
          (Text.asciiLower (Text.trim s) = "true" → Text.trim s = s) := by simp [Plain, hs]
    have known : flagOf? s = some b := by
      rw [flag, hs] at read
      dsimp only at read
      split at read
      · next known =>
        cases read
        exact known
      · cases read
    rw [Bool.eq_iff_iff, isTrue_iff hs, flagOf?_eq_some known, plain]
    generalize Text.asciiLower (Text.trim s) = word
    by_cases yes : word = "true"
    · simp [yes]
    · simp [yes]

end Environment

theorem HookSettings.shared_of_load (read : load env = .ok h) :
    ∃ seconds tracker, numberOr env "KUBE_TIMEOUT_SECONDS" limit64 30 = .ok seconds ∧
      TrackerAccess.load env = .ok tracker ∧
      h.cluster = ⟨textOr env "KUBE_API_URL" standardUrl, h.tokenSource,
        isTrue env "KUBE_ACCEPT_INVALID_CERTS", Time.Duration.ofSeconds seconds⟩ ∧
      h.token = trimmed? env "KUBE_TOKEN" ∧
      h.tokenFile = textOr env "KUBE_TOKEN_FILE" standardTokenFile ∧
      h.rulebookName = textOr env "JIT_CONFIG_NAME" standardRulebookName ∧
      h.cachePath = textOr env "JIT_CONFIG_CACHE_PATH" standardCachePath ∧ h.tracker = tracker := by
  simp only [load, Json.bind_eq_ok] at read
  obtain ⟨service, -, seconds, hs, pause, -, -, -, tracker, ht, read⟩ := read
  cases read
  exact ⟨seconds, tracker, hs, ht, rfl, rfl, rfl, rfl, rfl, rfl⟩

theorem WorkerSettings.shared_of_load (read : load env = .ok w) :
    ∃ accepts seconds tracker, flag env "KUBE_ACCEPT_INVALID_CERTS" = .ok accepts ∧
      numberOr env "KUBE_TIMEOUT_SECONDS" limit64 30 = .ok seconds ∧
      TrackerAccess.load env = .ok tracker ∧
      w.cluster = ⟨textOr env "KUBE_API_URL" standardUrl, tokenSource env, accepts,
        Time.Duration.ofSeconds seconds⟩ ∧
      w.rulebookName = (trimmed? env "JIT_CONFIG_NAME").getD standardRulebookName ∧
      w.cachePath = (trimmed? env "JIT_CONFIG_CACHE_PATH").getD standardCachePath ∧
      w.tracker = tracker := by
  simp only [load, loadCluster, Json.bind_eq_ok] at read
  obtain ⟨cluster, ⟨accepts, ha, seconds, hs, hc⟩, tracker, ht, webhooks, -, poll, -, concurrency,
    -, failurePause, -, attempts, -, retryPause, -, -, -, -, -, -, -, read⟩ := read
  cases hc
  cases read
  exact ⟨accepts, seconds, tracker, ha, hs, ht, rfl, rfl, rfl, rfl⟩

theorem tokenSource_eq_iff (token : h.token = trimmed? env "KUBE_TOKEN")
    (file : h.tokenFile = textOr env "KUBE_TOKEN_FILE" standardTokenFile) :
    h.tokenSource = WorkerSettings.tokenSource env ↔
      (trimmed? env "KUBE_TOKEN").isSome ∨ Bare env "KUBE_TOKEN_FILE" := by
  rw [HookSettings.tokenSource, WorkerSettings.tokenSource, token]
  cases trimmed? env "KUBE_TOKEN" with
  | some token => simp
  | none =>
    have filled : Text.trim standardTokenFile ≠ "" := by decide +kernel
    simp [file, textOr_eq_trimmed_iff filled]

/-- Wherever both can be loaded, the settings of the hook and of the worker agree on the address and
the timeout of the cluster and on the tracker. They agree on the token, unless it is in a file whose
name is blank or has blanks around it, on certificates, unless the flag says yes by another word or
with blanks around it, and on the rulebook's name and on the path of the cache, unless these are
blank or have blanks around them. -/
theorem shared_settings_agree_iff (hook : HookSettings.load env = .ok h)
    (worker : WorkerSettings.load env = .ok w) :
    h.cluster.url = w.cluster.url ∧ h.cluster.timeout = w.cluster.timeout ∧
      h.tracker = w.tracker ∧
      (h.cluster.token = w.cluster.token ↔
        (trimmed? env "KUBE_TOKEN").isSome ∨ Bare env "KUBE_TOKEN_FILE") ∧
      (h.cluster.acceptsAnyCertificate = w.cluster.acceptsAnyCertificate ↔
        Plain env "KUBE_ACCEPT_INVALID_CERTS") ∧
      (h.rulebookName = w.rulebookName ↔ Bare env "JIT_CONFIG_NAME") ∧
      (h.cachePath = w.cachePath ↔ Bare env "JIT_CONFIG_CACHE_PATH") := by
  obtain ⟨seconds, tracker, hs, ht, hc, token, file, hn, hp, htr⟩ :=
    HookSettings.shared_of_load hook
  obtain ⟨accepts, seconds', tracker', ha, hs', ht', wc, wn, wp, wtr⟩ :=
    WorkerSettings.shared_of_load worker
  cases hs.symm.trans hs'
  cases ht.symm.trans ht'
  have name_filled : Text.trim standardRulebookName ≠ "" := by decide +kernel
  have path_filled : Text.trim standardCachePath ≠ "" := by decide +kernel
  rw [hc, wc, hn, wn, hp, wp]
  exact ⟨rfl, rfl, htr.trans wtr.symm, tokenSource_eq_iff token file, isTrue_eq_iff ha,
    textOr_eq_trimmed_iff name_filled, textOr_eq_trimmed_iff path_filled⟩

namespace Sample

def padded : Environment := ([("JIRA_BASE_URL", "https://jira.example.com"),
  ("JIRA_USERNAME", "bot"), ("JIRA_API_TOKEN", "secret"), ("KUBE_TOKEN", " abc "),
  ("KUBE_TOKEN_FILE", " token "), ("KUBE_ACCEPT_INVALID_CERTS", "1"),
  ("JIT_CONFIG_NAME", " team-rules "), ("JIT_CONFIG_CACHE_PATH", "/var/cache/rules.json")].lookup ·)

def tracker : TrackerAccess :=
  ⟨"https://jira.example.com", "bot", "secret", Time.Duration.ofSeconds 15⟩

def hook : HookSettings where
  host := "0.0.0.0"
  service := 9443
  clusterUrl := standardUrl
  token := some "abc"
  tokenFile := " token "
  acceptsAnyCertificate := false
  clusterTimeout := Time.Duration.ofSeconds 30
  rulebookName := " team-rules "
  cachePath := "/var/cache/rules.json"
  refreshPause := Time.Duration.ofMillis 30000
  tracker := tracker
  selfApproval := false

def worker : WorkerSettings where
  cluster := ⟨standardUrl, .inline "abc", true, Time.Duration.ofSeconds 30⟩
  requestNamespace := "default"
  operatorNamespace := "default"
  rulebookName := "team-rules"
  cachePath := "/var/cache/rules.json"
  tracker := tracker
  webhooks := false
  poll := Time.Duration.ofMillis 5000
  concurrency := 4
  failurePause := Time.Duration.ofMillis 10000
  attempts := 3
  retryPause := Time.Duration.ofMillis 2000

theorem hook_loads : HookSettings.load padded = .ok hook := by decide +kernel

theorem worker_loads : WorkerSettings.load padded = .ok worker := by decide +kernel

theorem padded_agree_in_part :
    HookSettings.load padded = .ok hook ∧ WorkerSettings.load padded = .ok worker ∧
      hook.cluster.token = worker.cluster.token ∧ hook.cachePath = worker.cachePath ∧
      hook.cluster.acceptsAnyCertificate ≠ worker.cluster.acceptsAnyCertificate ∧
      hook.rulebookName ≠ worker.rulebookName := by
  obtain ⟨-, -, -, token, certificates, name, path⟩ :=
    shared_settings_agree_iff hook_loads worker_loads
  refine ⟨hook_loads, worker_loads, token.2 (.inl (by decide +kernel)), path.2 ?_,
    fun same => ?_, fun same => ?_⟩
  · rintro _ ⟨⟩
    decide +kernel
  · exact absurd (certificates.1 same "1" rfl).1 (by decide +kernel)
  · exact absurd (name.1 same " team-rules " rfl).1 (by decide +kernel)

/-- The hook and the worker can be set up to work from different rulebooks. -/
theorem settings_can_part : ¬∀ env h w, HookSettings.load env = .ok h →
    WorkerSettings.load env = .ok w →
      h.cluster = w.cluster ∧ h.rulebookName = w.rulebookName ∧ h.cachePath = w.cachePath ∧
        h.tracker = w.tracker := by
  intro agree
  have same := (agree padded hook worker hook_loads worker_loads).2.1
  exact absurd same (by decide)

end Sample

end Settings

end AccessWindow
