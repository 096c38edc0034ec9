/-!
The page that welcomes a visitor of the service.
-/
namespace FeatureAudit.Service

/-- The lines of the page. -/
def welcomeLines : List String := [
  "",
  "<!DOCTYPE html>",
  "<html lang=\"en\">",
  "<head>",
  "  <meta charset=\"utf-8\">",
  "  <meta name=\"viewport\" content=\"width=device-width, initial-scale=1\">",
  "  <title>Baseline Compatibility Checker API</title>",
  "  <style>",
  "    body \x7b font-family: system-ui, sans-serif; max-width: 42rem; margin: 2rem auto; "
    ++ "padding: 0 1rem; \x7d",
  "    h1 \x7b font-size: 1.25rem; font-weight: 600; \x7d",
  "    ul \x7b list-style: none; padding: 0; \x7d",
  "    li \x7b margin: 0.5rem 0; \x7d",
  "    a \x7b color: #2563eb; text-decoration: none; \x7d",
  "    a:hover \x7b text-decoration: underline; \x7d",
  "    .meta \x7b color: #64748b; font-size: 0.875rem; margin-top: 1.5rem; \x7d",
  "  </style>",
  "</head>",
  "<body>",
  "  <h1>Baseline Compatibility Checker API</h1>",
  "  <p>Endpoints:</p>",
  "  <ul>",
  "    <li><a href=\"/docs\">/docs</a>: Swagger UI</li>",
  "    <li><a href=\"/redoc\">/redoc</a>: ReDoc</li>",
  "    <li><a href=\"/health\">/health</a>: Liveness</li>",
  "    <li><a href=\"/features/container-queries\">/features/\x7btoken\x7d</a>: "
    ++ "Baseline status of one feature</li>",
  "    <li>/check (POST): same lookup with a JSON body</li>",
  "    <li>/analyze (POST): scan code, files or a folder</li>",
  "  </ul>",
  "  <p class=\"meta\">POST /analyze with "
    ++ "<code>\x7b\"code\": \"...\", \"filename\": \"styles.css\"\x7d</code>,",
  "  <code>\x7b\"file_paths\": [\"/abs/app.js\"]\x7d</code> or "
    ++ "<code>\x7b\"folder_path\": \"/abs/project\"\x7d</code>.",
  "  See <a href=\"/docs\">/docs</a> for details.</p>",
  "</body>",
  "</html>",
  ""]

/-- The page as text. -/
def welcomePage : String := "\n".intercalate welcomeLines

end FeatureAudit.Service
