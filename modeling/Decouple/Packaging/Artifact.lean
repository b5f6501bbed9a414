import Decouple.Settings
import Decouple.Signature.Variable
import Decouple.Snapshot

/-!
# Deployment artifacts

The files that every archive is given: how to build and serve the project, and a template of the
environment variables that it reads.
-/

namespace Decouple

namespace Artifact

/-- Lines, each with a line feed after it. -/
def ofLines (lines : List String) : Text :=
  lines.flatMap fun line => Text.ofString line ++ "\n"

/-- How the project is built into an image. -/
def dockerfile : Text := ofLines [
  "# Stage 1: build",
  "FROM node:20-alpine AS builder",
  "",
  "WORKDIR /app",
  "",
  "COPY package*.json ./",
  "RUN npm ci",
  "",
  "COPY . .",
  "RUN npm run build",
  "",
  "# Stage 2: static server",
  "FROM nginx:alpine",
  "",
  "COPY --from=builder /app/dist /usr/share/nginx/html",
  "COPY nginx.conf /etc/nginx/conf.d/default.conf",
  "",
  "EXPOSE 80",
  "",
  "HEALTHCHECK --interval=30s --timeout=3s --start-period=5s --retries=3 \\",
  "  CMD wget --no-verbose --tries=1 --spider http://localhost/ || exit 1",
  "",
  "CMD [\"nginx\", \"-g\", \"daemon off;\"]"]

/-- The start of the server block, up to its last location. -/
def serverStart : Text := ofLines [
  "server \x7b",
  "    listen 80;",
  "    server_name localhost;",
  "    root /usr/share/nginx/html;",
  "    index index.html;",
  "",
  "    gzip on;",
  "    gzip_min_length 1024;",
  "    gzip_types text/plain text/css application/json application/javascript text/xml application/xml text/javascript image/svg+xml;",
  "",
  "    add_header X-Frame-Options \"SAMEORIGIN\" always;",
  "    add_header X-Content-Type-Options \"nosniff\" always;",
  "    add_header Referrer-Policy \"strict-origin-when-cross-origin\" always;",
  "",
  "    location / \x7b",
  "        try_files $uri $uri/ /index.html;",
  "    \x7d",
  ""]

/-- The end of the server block, from the body of the last location on. -/
def serverEnd : Text := ofLines [
  "        expires 1y;",
  "        add_header Cache-Control \"public, immutable\";",
  "    \x7d",
  "\x7d"]

/-- How the image serves the project; files with some extensions are kept for a year. -/
def nginxConf (s : Settings) : Text :=
  serverStart ++ "    location ~* \\.(" ++ Text.join "|" s.staticExtensions ++ ")$ \x7b\n" ++
    serverEnd

/-- Whether a file declares environment variables rather than reads them. -/
def isEnvironmentFile (path : Text) : Bool := Text.startsWith (Text.afterLast '/' path) ".env"

/-- The variables that a file reads or declares. -/
def variablesOf (f : File) : List Text :=
  match f.content with
  | .bytes _ => []
  | .text t =>
    if isEnvironmentFile f.path then Signature.declaredVariables t else Signature.variableReads t

/-- The variables of a project, in order, each once. -/
def namesIn (files : Snapshot) : List Text :=
  Text.sort (Text.distinct (files.files.flatMap variablesOf))

/-- The line of the template for a variable. -/
def variableLine (name : Text) : Text := name ++ "=\n"

/-- The template of the environment: one line for each variable. -/
def environmentTemplate (files : Snapshot) : Text :=
  ofLines ["# Environment variables referenced by this project"] ++
    (namesIn files).flatMap variableLine

/-- The artifacts of a project with its report, each under its path. -/
def all (s : Settings) (files : Snapshot) (report : Text) : List (Text × Text) := [
  ("Dockerfile", dockerfile), ("nginx.conf", nginxConf s),
  (".env.example", environmentTemplate files), ("LIBERATION_REPORT.md", report)]

end Artifact

end Decouple
