import Decouple.Text.Parts
import Decouple.Text.Utf8

/-!
# The page

The page from which projects are analyzed and liberated in a browser, and its icon.
-/

namespace Decouple

namespace Web

/-- The lines of the page. -/
def pageLines : List String := [
  "",
  "    <!DOCTYPE html>",
  "    <html lang=\"en\">",
  "    <head>",
  "        <meta charset=\"UTF-8\">",
  "        <meta name=\"viewport\" content=\"width=device-width, initial-scale=1.0\">",
  "        <title>Liberator - Platform Liberation</title>",
  "        <link href=\"https://cdn.jsdelivr.net/npm/bootstrap@5.3.0/dist/css/bootstrap.min.css\" rel=\"stylesheet\">",
  "    </head>",
  "    <body>",
  "        <div class=\"container py-4\">",
  "            <div class=\"text-center mb-5\">",
  "                <h1 class=\"display-4 fw-bold text-primary\">Liberator</h1>",
  "                <p class=\"lead text-muted\">Strip proprietary-platform coupling and get a self-hostable project</p>",
  "            </div>",
  "",
  "            <div class=\"row\">",
  "                <div class=\"col-lg-6 mb-4\">",
  "                    <div class=\"card h-100\">",
  "                        <div class=\"card-header\"><h3 class=\"card-title mb-0\">Project archive</h3></div>",
  "                        <div class=\"card-body\">",
  "                            <input type=\"file\" id=\"archive\" accept=\".zip\" class=\"form-control mb-3\">",
  "                            <div class=\"form-check mb-3\">",
  "                                <input class=\"form-check-input\" type=\"checkbox\" id=\"useAi\" checked>",
  "                                <label class=\"form-check-label\" for=\"useAi\">Use AI-assisted rewrite</label>",
  "                            </div>",
  "                            <button class=\"btn btn-outline-primary\" onclick=\"analyze()\">Analyze</button>",
  "                            <button class=\"btn btn-primary\" onclick=\"liberate()\">Liberate</button>",
  "                        </div>",
  "                    </div>",
  "                </div>",
  "                <div class=\"col-lg-6 mb-4\">",
  "                    <div class=\"card h-100\">",
  "                        <div class=\"card-header\"><h3 class=\"card-title mb-0\">Result</h3></div>",
  "                        <div class=\"card-body\">",
  "                            <div id=\"score\" class=\"display-6 mb-3\"></div>",
  "                            <ul id=\"items\" class=\"list-group mb-3\"></ul>",
  "                            <a id=\"download\" class=\"btn btn-success d-none\">Download archive</a>",
  "                            <div id=\"error\" class=\"alert alert-danger d-none\"></div>",
  "                        </div>",
  "                    </div>",
  "                </div>",
  "            </div>",
  "        </div>",
  "",
  "        <script>",
  "            function form() \x7b",
  "                const file = document.getElementById('archive').files[0];",
  "                if (!file) \x7b throw new Error('Choose a .zip archive first'); \x7d",
  "                const data = new FormData();",
  "                data.append('file', file);",
  "                data.append('use_ai', document.getElementById('useAi').checked);",
  "                return data;",
  "            \x7d",
  "",
  "            function show(lines, scoreText) \x7b",
  "                document.getElementById('error').classList.add('d-none');",
  "                document.getElementById('score').textContent = scoreText;",
  "                const list = document.getElementById('items');",
  "                list.innerHTML = '';",
  "                for (const line of lines) \x7b",
  "                    const item = document.createElement('li');",
  "                    item.className = 'list-group-item';",
  "                    item.textContent = line;",
  "                    list.appendChild(item);",
  "                \x7d",
  "            \x7d",
  "",
  "            function fail(message) \x7b",
  "                const box = document.getElementById('error');",
  "                box.textContent = message;",
  "                box.classList.remove('d-none');",
  "            \x7d",
  "",
  "            async function call(url) \x7b",
  "                const response = await fetch(url, \x7b method: 'POST', body: form() \x7d);",
  "                const body = await response.json();",
  "                if (!response.ok) \x7b throw new Error(body.detail || 'Request failed'); \x7d",
  "                return body;",
  "            \x7d",
  "",
  "            async function analyze() \x7b",
  "                try \x7b",
  "                    const body = await call('/api/analyze');",
  "                    show(body.issues.map(i => `[$\x7bi.severity\x7d] $\x7bi.file_path\x7d: $\x7bi.description\x7d`),",
  "                         `Score $\x7bbody.score\x7d/100`);",
  "                \x7d catch (e) \x7b fail(e.message); \x7d",
  "            \x7d",
  "",
  "            async function liberate() \x7b",
  "                try \x7b",
  "                    const body = await call('/api/liberate');",
  "                    show(Object.entries(body.stats).map(([k, v]) => `$\x7bk\x7d: $\x7bv\x7d`),",
  "                         `Score $\x7bbody.score_before\x7d → $\x7bbody.score_after\x7d`);",
  "                    const link = document.getElementById('download');",
  "                    link.href = body.download_url;",
  "                    link.classList.remove('d-none');",
  "                \x7d catch (e) \x7b fail(e.message); \x7d",
  "            \x7d",
  "        </script>",
  "    </body>",
  "    </html>",
  "    "]

/-- The page. -/
def page : Text := Text.join "\n" (pageLines.map Text.ofString)

/-- The icon: an image of one point. -/
def icon : Bytes := [
  0x89, 0x50, 0x4E, 0x47, 0x0D, 0x0A, 0x1A, 0x0A, 0x00, 0x00, 0x00, 0x0D, 0x49, 0x48, 0x44, 0x52,
  0x00, 0x00, 0x00, 0x01, 0x00, 0x00, 0x00, 0x01, 0x08, 0x02, 0x00, 0x00, 0x00, 0x90, 0x77, 0x53,
  0xDE, 0x00, 0x00, 0x00, 0x09, 0x70, 0x48, 0x59, 0x73, 0x00, 0x00, 0x0B, 0x13, 0x00, 0x00, 0x0B,
  0x13, 0x01, 0x00, 0x9A, 0x9C, 0x18, 0x00, 0x00, 0x00, 0x12, 0x49, 0x44, 0x41, 0x54, 0x08, 0x1D,
  0x63, 0xF8, 0x00, 0x00, 0x00, 0x01, 0x00, 0x01, 0x75, 0x02, 0x81, 0xA3, 0x00, 0x00, 0x00, 0x00,
  0x49, 0x45, 0x4E, 0x44, 0xAE, 0x42, 0x60, 0x82]

end Web

end Decouple
