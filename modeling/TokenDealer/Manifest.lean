import TokenDealer.Config
import TokenDealer.Str

set_option autoImplicit true

namespace TokenDealer

structure ManifestOAuth where
  tokenUrl : String
  clientId : String
  deriving DecidableEq, Repr

structure ManifestProvider where
  baseUrl : String
  defaultModel : String
  path : String := "/v1/chat/completions"
  oauth : Option ManifestOAuth := none
  deriving DecidableEq, Repr

namespace Manifest

def openaiOAuth : ManifestOAuth where
  tokenUrl := "https://auth.openai.com/oauth/token"
  clientId := "app_EMoamEEZ73f0CkXaXp7hrann"

def lookup : ProviderType → Option ManifestProvider
  | .generic => none
  | .anthropic => some {
      baseUrl := "https://api.anthropic.com"
      defaultModel := "claude-sonnet-4-5"
      path := "/v1/messages"
      oauth := some {
        tokenUrl := "https://api.anthropic.com/v1/oauth/token"
        clientId := "9d1c250a-e61b-44d9-88ed-5944d1962f5e" } }
  | .google => some {
      baseUrl := "https://generativelanguage.googleapis.com"
      defaultModel := "gemini-2.0-flash"
      path := ""
      oauth := some {
        tokenUrl := "https://oauth2.googleapis.com/token"
        clientId :=
          "681255809395-oo8ft2oprdrnp9e3aqf6av3hmi99ikee6.apps.googleusercontent.com" } }
  | .kiro => some {
      baseUrl := "https://q.us-east-1.amazonaws.com"
      defaultModel := "kiro/claude-sonnet-4-5"
      path := "/"
      oauth := some {
        tokenUrl := "https://oidc.us-east-1.amazonaws.com/token"
        clientId := "Manifest" } }
  | .responses => some {
      baseUrl := "https://api.openai.com"
      defaultModel := "o3"
      path := "/v1/responses"
      oauth := some openaiOAuth }
  | .openai => some {
      baseUrl := "https://api.openai.com"
      defaultModel := "gpt-4o"
      oauth := some openaiOAuth }
  | .openrouter => some {
      baseUrl := "https://openrouter.ai"
      defaultModel := "anthropic/claude-sonnet-4-5"
      path := "/api/v1/chat/completions" }
  | .tokenrouter => some {
      baseUrl := "https://api.tokenrouter.com"
      defaultModel := "anthropic/claude-sonnet-4-5" }
  | .groq => some {
      baseUrl := "https://api.groq.com/openai"
      defaultModel := "llama-3.3-70b-versatile" }
  | .deepseek => some {
      baseUrl := "https://api.deepseek.com"
      defaultModel := "deepseek-chat" }
  | .fireworks => some {
      baseUrl := "https://api.fireworks.ai/inference"
      defaultModel := "accounts/fireworks/models/llama-v3p3-70b-instruct" }
  | .mistral => some {
      baseUrl := "https://api.mistral.ai"
      defaultModel := "mistral-large-latest" }
  | .xai => some {
      baseUrl := "https://api.x.ai"
      defaultModel := "grok-2-latest"
      oauth := some {
        tokenUrl := "https://auth.x.ai/oauth2/token"
        clientId := "b1a00492-073a-47ea-816f-4c329264a828" } }
  | .qwen => some {
      baseUrl := "https://dashscope.aliyuncs.com/compatible-mode"
      defaultModel := "qwen-plus" }
  | .moonshot => some {
      baseUrl := "https://api.moonshot.ai"
      defaultModel := "kimi-k2-0711-preview" }
  | .zai => some {
      baseUrl := "https://api.z.ai"
      defaultModel := "glm-4.5"
      path := "/api/paas/v4/chat/completions" }
  | .xiaomi => some {
      baseUrl := "https://api.xiaomimimo.com"
      defaultModel := "mimo-v2-flash" }
  | .minimax => some {
      baseUrl := "https://api.minimax.io"
      defaultModel := "MiniMax-Text-01"
      oauth := some {
        tokenUrl := "https://account.minimax.io/oauth2/token"
        clientId := "78257093-7e40-4613-99e0-527b14b39113" } }
  | .byteplus => some {
      baseUrl := "https://ark.ap-southeast.bytepluses.com/api/v3"
      defaultModel := "ep-20240520-vision"
      path := "/chat/completions" }
  | .nvidia => some {
      baseUrl := "https://integrate.api.nvidia.com"
      defaultModel := "meta/llama-3.1-70b-instruct" }
  | .opencodeGo => some {
      baseUrl := "https://opencode.ai/zen/go"
      defaultModel := "gpt-4o" }
  | .opencodeZen => some {
      baseUrl := "https://opencode.ai/zen"
      defaultModel := "gpt-4o" }
  | .kilo => some {
      baseUrl := "https://api.kilo.ai/api/gateway"
      defaultModel := "anthropic/claude-sonnet-4-5"
      path := "/chat/completions" }
  | .commandcode => some {
      baseUrl := "https://api.commandcode.ai/provider"
      defaultModel := "gpt-4o" }
  | .githubCopilot => some {
      baseUrl := "https://api.githubcopilot.com"
      defaultModel := "gpt-4o"
      oauth := some {
        tokenUrl := "https://github.com/login/oauth/access_token"
        clientId := "Iv1.b507a08c87ecfe98" } }
  | .gitlawb => some {
      baseUrl := "https://opengateway.gitlawb.com"
      defaultModel := "gpt-4o" }
  | .ollama => some {
      baseUrl := "http://localhost:11434"
      defaultModel := "llama3.1" }
  | .ollamaCloud => some {
      baseUrl := "https://ollama.com"
      defaultModel := "llama3.1" }
  | .llamaCpp => some {
      baseUrl := "http://localhost:8080"
      defaultModel := "default" }
  | .lmStudio => some {
      baseUrl := "http://localhost:1234"
      defaultModel := "default" }

/-- Aliases a provider id is recognised by, once lowered and with its separators made dashes.
Names with a dot in them can therefore never be hit. -/
def aliases : List (String × ProviderType) := [
  ("anthropic", .anthropic),
  ("openai", .openai), ("openai-completions", .openai),
  ("google", .google), ("gemini", .google),
  ("kiro", .kiro),
  ("openrouter", .openrouter),
  ("tokenrouter", .tokenrouter),
  ("groq", .groq),
  ("deepseek", .deepseek),
  ("fireworks", .fireworks), ("fireworks-ai", .fireworks), ("fireworksai", .fireworks),
  ("mistral", .mistral), ("mistralai", .mistral),
  ("xai", .xai), ("x-ai", .xai), ("grok", .xai),
  ("qwen", .qwen), ("alibaba", .qwen), ("dashscope", .qwen),
  ("moonshot", .moonshot), ("kimi", .moonshot), ("moonshotai", .moonshot),
  ("zai", .zai), ("z-ai", .zai), ("z.ai", .zai), ("zhipuai", .zai),
  ("xiaomi", .xiaomi), ("mimo", .xiaomi), ("xiaomi-mimo", .xiaomi),
  ("minimax", .minimax),
  ("byteplus", .byteplus), ("byteplus-plan", .byteplus), ("modelark", .byteplus),
  ("modelark-coding-plan", .byteplus),
  ("nvidia", .nvidia), ("nvidia-nim", .nvidia), ("nim", .nvidia),
  ("opencode-go", .opencodeGo), ("opencodego", .opencodeGo),
  ("opencode-zen", .opencodeZen), ("opencodezen", .opencodeZen),
  ("kilo", .kilo), ("kilocode", .kilo), ("kilo-code", .kilo),
  ("commandcode", .commandcode), ("command-code", .commandcode), ("cmd", .commandcode),
  ("copilot", .githubCopilot), ("github-copilot", .githubCopilot),
  ("githubcopilot", .githubCopilot),
  ("gitlawb", .gitlawb), ("opengateway", .gitlawb), ("open-gateway", .gitlawb), ("gl", .gitlawb),
  ("ollama", .ollama),
  ("ollama-cloud", .ollamaCloud),
  ("llamacpp", .llamaCpp), ("llama-cpp", .llamaCpp), ("llama.cpp", .llamaCpp),
  ("lmstudio", .lmStudio), ("lm-studio", .lmStudio),
  ("responses", .responses), ("openai-responses", .responses), ("codex", .responses)]

def dashed (c : Char) : Char := if c = '.' ∨ c = '_' ∨ c = ' ' then '-' else c

def resolveAlias (id : String) : Option ProviderType :=
  Table.get (String.ofList ((Str.toLowercase id).toList.map dashed)) aliases

/-- Is a provider with this id one whose key is a refresh token to be exchanged? -/
def usesOAuth (id : String) : Bool :=
  match resolveAlias id with
  | none => false
  | some providerType =>
    match lookup providerType with
    | none => false
    | some provider => provider.oauth.isSome

example : resolveAlias "LM_Studio" = some .lmStudio := by decide

end Manifest

end TokenDealer
